import Storefront.Proofs.Accounting
import Storefront.Proofs.Entering
import Storefront.Proofs.Heeding
import Storefront.Proofs.Protocol

/-!
# Unreadable lists

An answer to a query comes with a list of records that may be missing, unreadable or no list at
all. A call that waits for it takes the turn for what could be read, whatever else happens first:
`Took` is what becomes of it in every run.
-/

namespace Storefront

namespace Attempt

variable {settings : Settings} {attempt : Attempt} {response : Billing.Response}

/-- An answer that reports no success is the end. -/
theorem resume_refused_rest {awaited : Awaited} {line : LogLine} {failure : Failure}
    (refused : check awaited.stage response.result = .error (line, failure)) :
    (attempt.resume settings awaited response).rest = .finished (.failed failure) := by
  obtain ⟨first, _, same⟩ := resume_refused settings attempt refused
  rw [same]
  rfl

/-- How a query whose list is no list fails. -/
def malformedQuery (refusal : Json.Refusal) : Failure :=
  .unavailable .queryOffers (Billing.Response.malformed refusal).result

/-- It is reported, and nothing is asked anymore. -/
theorem resume_malformed (refusal : Json.Refusal) :
    (attempt.resume settings .offers (.malformed refusal)).rest =
        .finished (.failed (malformedQuery refusal)) ∧
      told (attempt.resume settings .offers (.malformed refusal)).actions =
        [.report (malformedQuery refusal)] ∧
      ∀ question, .ask question ∉
        (attempt.resume settings .offers (.malformed refusal)).actions := by
  obtain ⟨line, refused⟩ := check_failed
    (by simp [Billing.Response.malformed] : (Billing.Response.malformed refusal).result.code ≠ .ok)
    .queryOffers
  have form : attempt.NextTurn .offers (attempt.resume settings .offers (.malformed refusal)) :=
    resume_refused_nextTurn refused
  have rest : (attempt.resume settings .offers (.malformed refusal)).rest =
      .finished (.failed (malformedQuery refusal)) := resume_refused_rest refused
  have accounts : Account attempt.purpose (.failed (malformedQuery refusal))
      (told (attempt.resume settings .offers (.malformed refusal)).actions) := by
    have accounts : (attempt.resume settings .offers (.malformed refusal)).Accounts
        attempt.purpose := fun scene began => resume_accounts _ _ scene began
    have ended := accounts ⟨0, 0, 0⟩ 0
    rwa [rest] at ended
  refine ⟨rest, ?_, fun question member => ?_⟩
  · generalize attempt.purpose = purpose at accounts
    generalize told _ = spoken at accounts ⊢
    cases accounts
    rfl
  · have used : .ask question ∈ (attempt.resume settings .offers (.malformed refusal)).uses :=
      List.mem_filter.mpr ⟨member, rfl⟩
    rw [form.uses_end rest] at used
    simp at used

/-- Nothing is found by an answer with success, and without a record of a requested product. -/
theorem resume_notFound (rest : (attempt.resume settings .offers response).rest =
    .finished (.succeeded .notFound)) :
    response.result.code = .ok ∧ response.recordsFor attempt.catalog = [] := by
  by_cases ok : response.result.code = .ok
  · refine ⟨ok, ?_⟩
    rw [resume_offers (check_ok ok _), requested_eq] at rest
    cases records : response.recordsFor attempt.catalog with
    | nil => rfl
    | cons record others =>
        cases purpose : attempt.purpose with
        | lookup => simp [records, purpose, deliver, conclude, Turn.after] at rest
        | purchase =>
            cases others <;> simp [records, purpose, launch, conclude, Turn.after] at rest
  · obtain ⟨line, refused⟩ := check_failed ok .queryOffers
    have failed : (attempt.resume settings .offers response).rest =
        .finished (.failed (Stage.queryOffers.failure response.result)) :=
      resume_refused_rest refused
    cases failed.symm.trans rest

end Attempt

/-- A call that is past its query: it waits for the purchase flow, or it ended, and not because
nothing was found. -/
inductive Status.IsPastQuery : Status → Prop where
  | launching {attempt sku session since began} :
      IsPastQuery (.waiting attempt (.launch sku) session since began)
  | over {ending moment} (found : ending ≠ .succeeded .notFound) :
      IsPastQuery (.finished ending moment)

/-- Whoever waits for the purchase flow stays past the query. -/
theorem Attempt.Reacts.pastQuery {settings : Settings} {attempt : Attempt} {sku : Billing.Sku}
    {turn : Turn} (reaction : attempt.Reacts settings (.launch sku) turn) (scene : Scene)
    (began : Nat) : (turn.rest.status scene began).IsPastQuery := by
  cases reaction with
  | expired => exact .over (by simp)
  | cancelled => exact .over (by simp)
  | answered response =>
      cases checked : check .launchPurchase response.result with
      | ok _ =>
          rw [resume_launch checked]
          exact .over (by simp)
      | error refusal =>
          obtain ⟨line, failure⟩ := refusal
          have rest : (attempt.resume settings (.launch sku) response).rest =
              .finished (.failed failure) := resume_refused_rest checked
          rw [rest]
          exact .over (by simp)

theorem Status.IsPastQuery.reacts {status : Status} (past : status.IsPastQuery)
    {settings : Settings} {attempt : Attempt} {awaited : Awaited} {session since began : Nat}
    (waits : status = .waiting attempt awaited session since began) {turn : Turn}
    (reaction : attempt.Reacts settings awaited turn) (scene : Scene) :
    (turn.rest.status scene began).IsPastQuery := by
  subst waits
  cases past
  exact reaction.pastQuery scene began

theorem Status.IsPastQuery.begun {status : Status} (past : status.IsPastQuery) :
    status ≠ .notStarted := by
  cases past <;> simp

namespace Host

/-! ## The turn for what was read -/

/-- The call took the turn for the answer, on top of what it had done. -/
inductive Took (settings : Settings) (index : Nat) (call : Call) (attempt : Attempt)
    (session : Nat) (response : Billing.Response) (done : List Deed) (calls : List Call)
    (service : Service Bridge Event) : Prop where
  | ended {ending moment}
      (rest : (attempt.resume settings .offers response).rest = .finished ending)
      (found : calls[index]? = some { call with status := .finished ending moment })
      (deeds : deedsOf index service.deeds = done ++
        (attempt.resume settings .offers response).deeds ⟨moment, index, session⟩)
  | launched {later ahead other moment more}
      (rest : (attempt.resume settings .offers response).rest = .waiting later ahead)
      (found : calls[index]? = some other) (past : other.status.IsPastQuery)
      (deeds : deedsOf index service.deeds = done ++
        (attempt.resume settings .offers response).deeds ⟨moment, index, session⟩ ++ more)

section Run

variable {settings : Settings} {detached : Bool} {index : Nat} {call : Call}
  {attempt : Attempt} {session slot : Nat} {response : Billing.Response} {done : List Deed}
  {timeline : Timeline Bridge Event Arrival}

/-- Whoever took the turn for its answer may go on, but not back. -/
theorem Took.turn {scene : Scene} {began : Nat} {turn : Turn} {taker : Call}
    (took : Took settings index call attempt session response done
      timeline.calls timeline.service)
    (own : timeline.calls[scene.call]? = some taker)
    (onward : taker.status.IsPastQuery → (turn.rest.status scene began).IsPastQuery)
    (unended : taker.isOver = false) :
    Took settings index call attempt session response done
      (timeline.takeTurn (hosted detached) scene began turn taker).calls
      (timeline.takeTurn (hosted detached) scene began turn taker).service := by
  by_cases same : scene.call = index
  · subst same
    cases took with
    | ended rest found deeds =>
        obtain rfl := Option.some.inj (own.symm.trans found)
        simp [Call.isOver] at unended
    | @launched later ahead other moment more rest found past deeds =>
        obtain rfl := Option.some.inj (own.symm.trans found)
        have taken : (timeline.takeTurn (hosted detached) scene began turn
            taker).calls[scene.call]? =
              some { taker with status := turn.rest.status scene began } := by
          rw [Timeline.takeTurn_calls]
          exact List.getElem?_set_self (List.getElem?_eq_some_iff.mp own).1
        have further : deedsOf scene.call
            (timeline.takeTurn (hosted detached) scene began turn taker).service.deeds =
              done ++ (attempt.resume settings .offers response).deeds
                ⟨moment, scene.call, session⟩ ++ (more ++ turn.deeds scene) := by
          rw [Timeline.takeTurn_deeds, deedsOf_append, Turn.deedsOf_deeds, if_pos rfl, deeds,
            List.append_assoc]
        exact .launched rest taken (onward past) further
  · have calls : (timeline.takeTurn (hosted detached) scene began turn taker).calls[index]? =
        timeline.calls[index]? := by
      rw [Timeline.takeTurn_calls, List.getElem?_set_ne same]
    have kept : deedsOf index
        (timeline.takeTurn (hosted detached) scene began turn taker).service.deeds =
          deedsOf index timeline.service.deeds := deedsOf_turn same
    cases took with
    | ended rest found deeds => exact .ended rest (calls.trans found) (kept.trans deeds)
    | launched rest found past deeds =>
        exact .launched rest (calls.trans found) past (kept.trans deeds)

/-- Only what the calls do matters to what became of one. -/
theorem Took.kept {calls : List Call} {service next : Service Bridge Event}
    (took : Took settings index call attempt session response done calls service)
    (deeds : next.deeds = service.deeds) :
    Took settings index call attempt session response done calls next := by
  cases took with
  | ended rest found did => exact .ended rest found (deeds ▸ did)
  | launched rest found past did => exact .launched rest found past (deeds ▸ did)

theorem Took.look {scene : Scene} (detached : Bool) (stage : Stage) (since : Nat)
    (took : Took settings index call attempt session response done
      timeline.calls timeline.service) :
    Took settings index call attempt session response done timeline.calls
      (timeline.look (hosted detached) scene stage since).service :=
  took.kept (Service.poll_deeds (hosted detached) scene stage since timeline.service)

variable (attempt session response) in
/-- A call whose answer is there takes the turn for it. -/
theorem took_answer (isThere : timeline.calls[index]? = some call) (now began : Nat) :
    Took settings index call attempt session response (deedsOf index timeline.service.deeds)
      (timeline.takeTurn (hosted detached) ⟨now, index, session⟩ began
        (attempt.resume settings .offers response) call).calls
      (timeline.takeTurn (hosted detached) ⟨now, index, session⟩ began
        (attempt.resume settings .offers response) call).service := by
  have found : (timeline.takeTurn (hosted detached) ⟨now, index, session⟩ began
      (attempt.resume settings .offers response) call).calls[index]? = some { call with
        status := (attempt.resume settings .offers response).rest.status ⟨now, index, session⟩
          began } := by
    rw [Timeline.takeTurn_calls]
    exact List.getElem?_set_self (List.getElem?_eq_some_iff.mp isThere).1
  have deeds : deedsOf index (timeline.takeTurn (hosted detached) ⟨now, index, session⟩ began
      (attempt.resume settings .offers response) call).service.deeds =
        deedsOf index timeline.service.deeds ++
          (attempt.resume settings .offers response).deeds ⟨now, index, session⟩ := by
    rw [Timeline.takeTurn_deeds, deedsOf_append, Turn.deedsOf_deeds, if_pos rfl]
  cases rest : (attempt.resume settings .offers response).rest with
  | finished ending =>
      rw [rest] at found
      exact .ended rest found deeds
  | waiting later ahead =>
      rw [rest] at found
      obtain ⟨_, question, leads, _⟩ := Attempt.resume_leads rest
      cases leads
      exact .launched rest found .launching (deeds.trans (List.append_nil _).symm)

/-- Whoever took the turn for its answer is past the query from then on. -/
theorem Heeded.took
    (heeded : Heeded detached settings index call attempt .offers session response done timeline) :
    Took settings index call attempt session response done timeline.calls timeline.service := by
  obtain ⟨before, now, began, found, rfl, further⟩ := heeded
  induction further with
  | refl => exact took_answer attempt session response found now began
  | step prior transition took =>
      cases transition with
      | start now found idle =>
          exact took.turn found (fun past => absurd idle past.begun) (by simp [Call.isOver, idle])
      | react now found waits reaction =>
          exact took.turn found (fun past => past.reacts waits reaction _)
            (by simp [Call.isOver, waits])
      | poll scene stage since => exact took.look detached stage since
      | receive now signal => exact took.kept (Service.receive_deeds (hosted detached) now _ signal)
      | queue signals => exact took

/-- In every run, a call whose answer is held waits until its turn comes, and then takes it. -/
theorem App.Reaches.heeds {origin entered : App}
    (reached : origin.Reaches detached settings entered) (isNew : origin.IsNew)
    (served : Served index call attempt .offers session slot .skuDetails response entered.calls
      entered.service)
    {now place : Nat}
    (run : entered.present.Unfolds (hosted detached) settings now place timeline) :
    Pending place index call attempt .offers session slot .skuDetails response
        (deedsOf index entered.service.deeds) timeline.calls timeline.service ∨
      Took settings index call attempt session response (deedsOf index entered.service.deeds)
        timeline.calls timeline.service :=
  (reached.pending_or_heeded isNew served run).imp_right (·.took)

end Run

/-! ## What can be read -/

/-- What is read of an argument that was sent along, if there is one. -/
inductive ReadsSent (machine : Machine) (pending : Option Raised) :
    Argument → Option (Except Trouble String) → Prop where
  | null : ReadsSent machine pending .null none
  | given {argument reading} (present : argument ≠ .null)
      (reads : Reads machine pending argument reading) :
      ReadsSent machine pending argument (some reading)

/-- The text of a message. One that is missing or unreadable is empty. -/
def textOf : Option (Except Trouble String) → String
  | some (.ok text) => text
  | _ => ""

/-- The exception that is pending after an argument was read, or was missing. -/
def pendingAfter (pending : Option Raised) : Option (Except Trouble String) → Option Raised
  | some reading => raisedBy reading
  | none => pending

/-- The machine after an argument was read. -/
def Machine.reading (machine : Machine) : Option Raised → Argument → Machine
  | none, .text _ => (machine.perform .readText).machine
  | _, _ => machine

/-- What a list of records is taken for: no list, or the records, or no list of records at all. -/
inductive Lists : Option (Except Trouble String) →
    Except Json.Refusal (Option (List Billing.Sku)) → Prop where
  | none : Lists none (.ok none)
  | unreadable {trouble refusal} (empty : Billing.Sku.decodeList "" = .error refusal) :
      Lists (some (.error trouble)) (.error refusal)
  | malformed {text refusal} (decodes : Billing.Sku.decodeList text = .error refusal) :
      Lists (some (.ok text)) (.error refusal)
  | records {text details} (decodes : Billing.Sku.decodeList text = .ok details) :
      Lists (some (.ok text)) (.ok (some details))

/-- What is read of a message and a list that are sent along, in this order. -/
structure Reading (machine : Machine) (pending : Option Raised) (message json : Argument)
    (said given : Option (Except Trouble String))
    (list : Except Json.Refusal (Option (List Billing.Sku))) : Prop where
  heard : ReadsSent machine pending message said
  handed : ReadsSent (machine.reading pending message) (pendingAfter pending said) json given
  lists : Lists given list

/-- The answer that they make. -/
def answerOf (code : Int) (said : Option (Except Trouble String)) :
    Except Json.Refusal (Option (List Billing.Sku)) → Billing.Response
  | .error refusal => .malformed refusal
  | .ok details => ⟨⟨.ofNumber code, textOf said⟩, details⟩

theorem readsSent_total (machine : Machine) (pending : Option Raised) (argument : Argument) :
    ∃ reading, ReadsSent machine pending argument reading := by
  have reads := (Progress.mk machine pending []).read_reads argument
  cases argument with
  | null => exact ⟨_, .null⟩
  | text | foreign => exact ⟨_, .given (by simp) reads⟩

theorem lists_total (given : Option (Except Trouble String)) : ∃ list, Lists given list := by
  cases given with
  | none => exact ⟨_, .none⟩
  | some reading =>
      cases reading with
      | error trouble => exact ⟨_, .unreadable rfl⟩
      | ok text =>
          cases decodes : Billing.Sku.decodeList text with
          | error refusal => exact ⟨_, .malformed decodes⟩
          | ok details => exact ⟨_, .records decodes⟩

/-- Something or other is read of whatever is sent along. -/
theorem reading_total (machine : Machine) (pending : Option Raised) (message json : Argument) :
    ∃ said given list, Reading machine pending message json said given list := by
  obtain ⟨said, read⟩ := readsSent_total machine pending message
  obtain ⟨given, further⟩ :=
    readsSent_total (machine.reading pending message) (pendingAfter pending said) json
  obtain ⟨list, lists⟩ := lists_total given
  exact ⟨said, given, list, read, further, lists⟩

namespace Progress

variable (progress : Progress)

theorem read_machine (argument : Argument) :
    (progress.read argument).2.machine = progress.machine.reading progress.pending argument := by
  unfold read
  cases pending : progress.pending with
  | some raised => cases argument <;> rfl
  | none =>
      cases argument with
      | null | foreign => rfl
      | text units =>
          dsimp only
          split <;> rfl

/-- An argument that is there is read as it is, or it is not read and that is logged. -/
theorem readSent_given {argument : Argument} (present : argument ≠ .null)
    {reading : Except Trouble String}
    (reads : Reads progress.machine progress.pending argument reading) :
    progress.readSent argument =
      match reading with
      | .ok text => (some text, (progress.read argument).2)
      | .error trouble => (none, (progress.read argument).2.log .error
          ("failed to read string from BillingBridge: " ++ trouble.message)) := by
  have read : progress.read argument = (reading, (progress.read argument).2) :=
    Prod.ext (reads.unique (progress.read_reads argument)).symm rfl
  unfold readSent
  cases argument with
  | null => exact absurd rfl present
  | text | foreign =>
      dsimp only
      rw [read]
      cases reading <;> rfl

theorem readSent_reads {argument : Argument} {reading : Option (Except Trouble String)}
    (reads : ReadsSent progress.machine progress.pending argument reading) :
    (progress.readSent argument).1.getD "" = textOf reading ∧
      (progress.readSent argument).2.machine =
        progress.machine.reading progress.pending argument ∧
      (progress.readSent argument).2.pending = pendingAfter progress.pending reading := by
  cases reads with
  | null =>
      refine ⟨rfl, ?_, rfl⟩
      cases progress.pending <;> rfl
  | @given _ reading present reads =>
      obtain ⟨left, _⟩ := progress.read_leaves argument
      rw [← reads.unique (progress.read_reads argument)] at left
      rw [progress.readSent_given present reads]
      cases reading with
      | ok text | error trouble => exact ⟨rfl, progress.read_machine argument, left⟩

/-- A list that is there, but cannot be read, is passed on as an empty text. -/
theorem records_lists {json : Argument} {given : Option (Except Trouble String)}
    (reads : ReadsSent progress.machine progress.pending json given)
    {list : Except Json.Refusal (Option (List Billing.Sku))} (lists : Lists given list)
    (code : Int) (said : Option (Except Trouble String)) :
    (Billing.Reply.mk ⟨.ofNumber code, textOf said⟩ (progress.records json).1).read.1 =
      answerOf code said list := by
  cases reads with
  | null =>
      cases lists
      rfl
  | @given _ reading present reads =>
      have passes : (progress.records json).1 = some ((progress.readSent json).1.getD "") := by
        cases json with
        | null => exact absurd rfl present
        | text | foreign => rfl
      rw [passes, progress.readSent_given present reads]
      cases lists with
      | unreadable empty => simp [Billing.Reply.read, empty, answerOf]
      | malformed decodes | records decodes => simp [Billing.Reply.read, decodes, answerOf]

/-- What comes with the answer to a query makes the answer. -/
theorem callback_answer {message json : Argument} {said given : Option (Except Trouble String)}
    {list : Except Json.Refusal (Option (List Billing.Sku))}
    (reading : Reading progress.machine progress.pending message json said given list)
    (code : Int) :
    ∃ reply, (progress.callback (.skuDetails code message json)).1 = .skuDetails reply ∧
      reply.read.1 = answerOf code said list := by
  obtain ⟨text, machine, pending⟩ := progress.readSent_reads reading.heard
  have further := reading.handed
  rw [← machine, ← pending] at further
  refine ⟨_, rfl, ?_⟩
  have answers := (progress.readSent message).2.records_lists further reading.lists code said
  rw [← text] at answers
  exact answers

end Progress

/-! ## What becomes of the query -/

/-- A call waits in a session for the answer to its query. -/
structure App.AwaitsOffers (app : App) (index : Nat) (call : Call) (attempt : Attempt)
    (session : Nat) : Prop where
  found : app.calls[index]? = some call
  waits : ∃ since began, call.status = .waiting attempt .offers session since began
  asked : ∃ request, app.service.world.board.waiting? session = some request ∧
    request.kind = .skuDetails

/-- What became of a call by the answer to its query, on top of what it had done. -/
structure Queried (settings : Settings) (index : Nat) (call : Call) (attempt : Attempt)
    (session : Nat) (code : Int) (said : Option (Except Trouble String))
    (list : Except Json.Refusal (Option (List Billing.Sku))) (past : List Deed)
    (calls : List Call) (service : Service Bridge Event) : Prop where
  /-- If the list is no list of records, the query failed, whatever the code. That was reported,
  and nothing was delivered or launched. -/
  failed : ∀ {refusal}, list = .error refusal →
    (∃ moment, calls[index]? = some { call with
      status := .finished (.failed (.unavailable .queryOffers
        ⟨.error, "malformed sku details: " ++ refusal.message⟩)) moment }) ∧
      told (actionsOf index service.deeds) = [.report (.unavailable .queryOffers
        ⟨.error, "malformed sku details: " ++ refusal.message⟩)] ∧
      ∀ sku presentation, .ask (.launch sku presentation) ∉ actionsOf index service.deeds
  /-- Nothing was found only if the code was that of success, and there was no list, or one
  without a record of a requested product. -/
  notFound : ∀ {other moment}, calls[index]? = some other →
    other.status = .finished (.succeeded .notFound) moment →
    code = 0 ∧ (list = .ok none ∨ ∃ details, list = .ok (some details) ∧
      ∀ record ∈ details, record.sku ∉ attempt.catalog.ids)
  /-- Any other answer is taken with its code and what could be read of its message. -/
  heard : ∀ {details}, list = .ok details → ∃ moment more,
    deedsOf index service.deeds = past ++
      (attempt.resume settings .offers ⟨⟨.ofNumber code, textOf said⟩, details⟩).deeds
        ⟨moment, index, session⟩ ++ more

section Queried

variable {settings : Settings} {detached : Bool} {index : Nat} {call : Call} {attempt : Attempt}
  {session : Nat} {code : Int} {said given : Option (Except Trouble String)}
  {list : Except Json.Refusal (Option (List Billing.Sku))} {app : App}

/-- The callback of a query is held for whoever waits for it. -/
theorem App.AwaitsOffers.enter (awaits : app.AwaitsOffers index call attempt session)
    (sound : app.service.world.board.Sound) {message json : Argument} {pending : Option Raised}
    (reading : Reading app.service.world.machine pending message json said given list) :
    ∃ slot, Served index call attempt .offers session slot .skuDetails (answerOf code said list)
      (app.enter ⟨.callback session (.skuDetails code message json), pending⟩).2.calls
      (app.enter ⟨.callback session (.skuDetails code message json), pending⟩).2.service := by
  obtain ⟨reply, read, answers⟩ :=
    (Progress.mk app.service.world.machine pending []).callback_answer reading code
  have waiting : app.Awaits index call attempt .offers session .skuDetails :=
    ⟨awaits.found, awaits.waits, awaits.asked⟩
  obtain ⟨slot, served⟩ := waiting.enter sound pending read rfl
  exact ⟨slot, answers ▸ served⟩

/-- Whoever waits for offers told and launched nothing yet. -/
theorem App.Reaches.untold {origin : App} (reached : origin.Reaches detached settings app)
    (isNew : origin.IsNew) (found : app.calls[index]? = some call)
    (waits : ∃ since began, call.status = .waiting attempt .offers session since began) :
    told (actionsOf index app.service.deeds) = [] ∧
      ∀ sku presentation, .ask (.launch sku presentation) ∉ actionsOf index app.service.deeds := by
  obtain ⟨since, began, waits⟩ := waits
  obtain ⟨start, fresh, interleaved⟩ := reached.timeline isNew
  have accounts := fresh.accounts interleaved found
  rw [waits] at accounts
  refine ⟨accounts, fun sku presentation member => ?_⟩
  obtain ⟨deed, did, own, asks⟩ := mem_actionsOf.mp member
  have passage := (fresh.story interleaved found).passage
  rw [waits] at passage
  have used : deed ∈ (deedsOf index app.service.deeds).filter (·.action.isSession) :=
    List.mem_filter.mpr ⟨mem_deedsOf.mpr ⟨did, own⟩, by simp [asks]⟩
  generalize (deedsOf index app.service.deeds).filter (·.action.isSession) = uses at passage used
  cases passage with
  | querying =>
      simp only [List.mem_cons, List.not_mem_nil, or_false] at used
      rcases used with rfl | rfl | rfl <;> cases asks

theorem ofNumber_ok {number : Int} (ok : Billing.Code.ofNumber number = .ok) : number = 0 := by
  unfold Billing.Code.ofNumber at ok
  split at ok <;> simp_all

/-- Whoever took the turn for the answer was queried. -/
theorem Took.queried {past : List Deed} {calls : List Call} {service : Service Bridge Event}
    (took : Took settings index call attempt session (answerOf code said list) past calls service)
    (untold : told (past.map (·.action)) = [])
    (unlaunched : ∀ sku presentation, .ask (.launch sku presentation) ∉ past.map (·.action)) :
    Queried settings index call attempt session code said list past calls service where
  failed {refusal} malformed := by
    subst malformed
    obtain ⟨ends, reports, askless⟩ : (attempt.resume settings .offers (.malformed refusal)).rest =
        .finished (.failed (Attempt.malformedQuery refusal)) ∧ _ :=
      Attempt.resume_malformed refusal
    cases took with
    | launched rest => cases ends.symm.trans rest
    | @ended ending moment rest found deeds =>
        cases ends.symm.trans rest
        have did : actionsOf index service.deeds = past.map (·.action) ++
            (attempt.resume settings .offers (.malformed refusal)).actions := by
          rw [actionsOf, deeds, List.map_append, Turn.deeds_actions]
          rfl
        refine ⟨⟨moment, found⟩, ?_, fun sku presentation member => ?_⟩
        · rw [did, told_append, untold, reports]
          rfl
        · rw [did] at member
          exact (List.mem_append.mp member).elim (unlaunched sku presentation) (askless _)
  notFound {other moment} isThere status := by
    cases took with
    | launched rest found past =>
        obtain rfl := Option.some.inj (isThere.symm.trans found)
        rw [status] at past
        cases past
        contradiction
    | ended rest found =>
        obtain rfl := Option.some.inj (isThere.symm.trans found)
        cases status
        obtain ⟨ok, nothing⟩ := Attempt.resume_notFound rest
        cases list with
        | error refusal => cases ok
        | ok details =>
            refine ⟨ofNumber_ok ok, ?_⟩
            cases details with
            | none => exact .inl rfl
            | some records =>
                refine .inr ⟨records, rfl, fun record member requested => ?_⟩
                have kept := List.filter_eq_nil_iff.mp nothing record member
                simp [requested] at kept
  heard {details} listed := by
    subst listed
    cases took with
    | @ended ending moment rest found deeds => exact ⟨moment, [], by simpa [answerOf] using deeds⟩
    | @launched later ahead other moment more rest found past deeds => exact ⟨moment, more, deeds⟩

/-- What holds once the answer to a query called back: what comes with it is read in some way, and
in every run the call waits for its turn and then is what that makes of it. -/
structure Hears (detached : Bool) (settings : Settings) (app : App) (index : Nat) (call : Call)
    (attempt : Attempt) (session : Nat) (code : Int) (message json : Argument)
    (pending : Option Raised) : Prop where
  reads : ∃ said given list,
    Reading app.service.world.machine pending message json said given list
  runs : ∀ {said given list},
    Reading app.service.world.machine pending message json said given list →
    ∀ {now place timeline},
      (app.enter ⟨.callback session (.skuDetails code message json), pending⟩).2.present.Unfolds
        (hosted detached) settings now place timeline →
      timeline.calls[index]? = some call ∧ place ≤ index ∨
        Queried settings index call attempt session code said list
          (deedsOf index app.service.deeds) timeline.calls timeline.service
  /-- Letting the calls go on is enough, as long as none should have gone on before. -/
  advances : ∀ {said given list},
    Reading app.service.world.machine pending message json said given list → ∀ {now},
      (app.enter ⟨.callback session (.skuDetails code message json), pending⟩).2.present.Awaits
        (hosted detached) settings now →
      Queried settings index call attempt session code said list (deedsOf index app.service.deeds)
        ((app.enter ⟨.callback session (.skuDetails code message json),
          pending⟩).2.present.advance (hosted detached) settings now).calls
        ((app.enter ⟨.callback session (.skuDetails code message json),
          pending⟩).2.present.advance (hosted detached) settings now).service

/-- A list that is no list of records fails the query, whatever the code that comes with it; to
find nothing takes a success and no list, or a list of other products. -/
theorem App.queries_heard {origin : App} (isNew : origin.IsNew)
    (blank : origin.service.world.board = {})
    (reached : origin.Reaches detached settings app)
    (awaits : app.AwaitsOffers index call attempt session) (code : Int) (message json : Argument)
    (pending : Option Raised) :
    Hears detached settings app index call attempt session code message json pending := by
  let entrance : Entrance := ⟨.callback session (.skuDetails code message json), pending⟩
  have there : origin.Reaches detached settings (app.enter entrance).2 :=
    reached.move (.enter app entrance)
  obtain ⟨untold, unlaunched⟩ := reached.untold isNew awaits.found awaits.waits
  have runs : ∀ {said given list},
      Reading app.service.world.machine pending message json said given list →
      ∀ {now place timeline}, (app.enter entrance).2.present.Unfolds (hosted detached) settings now
        place timeline →
      timeline.calls[index]? = some call ∧ place ≤ index ∨
        Queried settings index call attempt session code said list
          (deedsOf index app.service.deeds) timeline.calls timeline.service := by
    intro said given list reading now place timeline run
    obtain ⟨slot, expects⟩ := awaits.enter (reached.sound blank) reading
    rcases there.heeds isNew expects run with pends | took
    · exact .inl ⟨pends.found, pends.before⟩
    · rw [enter_deeds] at took
      exact .inr (took.queried untold unlaunched)
  refine ⟨reading_total .., runs, fun {_ _ _} reading {now} idle => ?_⟩
  rcases runs reading (Timeline.Unfolds.origin now idle).advance with ⟨found, before⟩ | queried
  · have inside := (List.getElem?_eq_some_iff.mp found).1
    rw [Timeline.advance, Timeline.advanceCalls_length] at inside
    exact absurd before (Nat.not_le_of_lt inside)
  · exact queried

end Queried

namespace App

/-- A lookup that waits for the answer to its query. -/
def asker : Call :=
  { order := ⟨.lookup, .catalog ⟨[⟨false, "subs", "premium"⟩]⟩, ""⟩
    status := .waiting ⟨.lookup, ⟨[⟨false, "subs", "premium"⟩]⟩, "", .queryingOffers⟩
      .offers 1 0 0 }

/-- The app that waits. -/
def asking : App :=
  ((ready ⟨"context", "loader"⟩ []).run
    [⟨.lookUp premium, none⟩, ⟨.callback 1 (.setupFinished 0 .null), none⟩]).2

/-- An object that is no list fails its query, though the code is that of success. -/
theorem asking_fails :
    ∃ refusal moment,
      (asking.step ⟨.callback (1 : Nat) (.skuDetails 0 .null .foreign), none⟩).calls[0]? =
        some { asker with
          status := .finished (.failed (.unavailable .queryOffers
            ⟨.error, "malformed sku details: " ++ Json.Refusal.message refusal⟩)) moment } := by
  have awaits : asking.AwaitsOffers 0 asker
      ⟨.lookup, ⟨[⟨false, "subs", "premium"⟩]⟩, "", .queryingOffers⟩ 1 :=
    ⟨by decide +kernel, ⟨0, 0, rfl⟩, ⟨1, .skuDetails, true, .empty⟩, by decide +kernel, rfl⟩
  have hears : Hears true {} asking 0 asker _ 1 0 .null .foreign none :=
    queries_heard (ready_isNew ⟨"context", "loader"⟩ []) rfl (run_reaches _ _) awaits 0 .null
      .foreign none
  obtain ⟨refusal, empty⟩ : ∃ refusal, Billing.Sku.decodeList "" = .error refusal := ⟨_, rfl⟩
  have queried := hears.advances ⟨.null, .given (by simp) .foreign, .unreadable empty⟩
    fun _ _ => Nat.zero_le _
  obtain ⟨moment, found⟩ := (queried.failed rfl).1
  refine ⟨refusal, moment, ?_⟩
  rw [step_calls]
  exact found

/-- An app that is answered with success, a message and a record, when the machine fails to read
the message. -/
def muddled (silently : Bool) : App :=
  ((ready ⟨"context", "loader"⟩ [⟨"GetStringUTFChars", some 2, silently⟩]).run
    [⟨.lookUp premium, none⟩, ⟨.callback 1 (.setupFinished 0 .null), none⟩,
      ⟨.callback 1 (.skuDetails 0 premium premiumRecord), none⟩]).2

/-- If it fails silently the record is delivered. If an exception is raised by the message, the
record is not read either. -/
theorem muddled_fails :
    (muddled true).calls.map (·.status) = [.finished (.succeeded (.delivered 1)) 0] ∧
      (muddled false).calls.map (·.status) =
        [.finished (.failed (.unavailable .queryOffers ⟨.error,
          "malformed sku details: EOF while parsing a value at line 1 column 0"⟩)) 0] := by
  decide +kernel

end App

end Host

end Storefront
