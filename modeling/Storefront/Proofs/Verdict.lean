import Storefront.Proofs.Following

/-!
# Which stage decides, and when

`Order.verdict` works out how a call ends that is alone with its script and is not given up on:
stage by stage, the first that is late or is not answered with success decides.
`Call.stage_decides` finds that a run of the call comes to the same end at the same moment and
asks the same stages at the same moments on its way.
-/

namespace Storefront

/-! ## The verdict -/

/-- The answer of a stage. A list of records that cannot be read is an error of the service. -/
def Billing.Reply.answer (reply : Billing.Reply) : Billing.Response :=
  match reply.json.map Billing.Sku.decodeList with
  | none => ⟨reply.result, none⟩
  | some (.ok details) => ⟨reply.result, some details⟩
  | some (.error refusal) => ⟨⟨.error, "malformed sku details: " ++ refusal.message⟩, none⟩

/-- A span in milliseconds, rounded up to a whole number of them. -/
def Duration.roundedUp (span : Duration) : Nat :=
  (span.seconds * 1000000000 + span.nanoseconds + 999999) / 1000000

/-- The milliseconds a stage may take that begins at a moment: the whole timeout, unless the
clock ends before. -/
def Settings.allowance (settings : Settings) (since : Nat) : Nat :=
  if since + settings.stageTimeout.roundedUp ≤ clockEnd then settings.stageTimeout.roundedUp
  else clockEnd - since

/-- How a call ends and when, and the stages it goes through with the moments they begin. -/
structure Verdict where
  asked : List (Nat × Stage)
  ending : Ending
  moment : Nat
deriving DecidableEq, Repr

/-- The verdict of a call that goes through a stage first. -/
def Verdict.asking (stage : Stage) (since : Nat) (verdict : Verdict) : Verdict :=
  { verdict with asked := (since, stage) :: verdict.asked }

/-- The failure of a stage that was not answered with success. -/
def Stage.failure (stage : Stage) (result : Billing.Result) : Failure :=
  if result.code ∈ [.userCanceled, .featureNotSupported, .itemAlreadyOwned, .itemNotOwned] then
    .unexpected stage result
  else .unavailable stage result

/-- The verdict of a call in a stage: it ends if the stage is late or is not answered with
success, and goes on otherwise. -/
def Settings.judge (settings : Settings) (stage : Stage) (cue : Cue) (since : Nat)
    (further : Billing.Response → Nat → Verdict) : Verdict :=
  let late : Verdict :=
    ⟨[], .failed (.timedOut stage settings.stageTimeout), since + settings.allowance since⟩
  match cue.wait with
  | .never => late
  | .after milliseconds =>
      if settings.allowance since < milliseconds then late
      else
        let answer := cue.reply.answer
        if answer.result.code = .ok then further answer (since + milliseconds)
        else ⟨[], .failed (stage.failure answer.result), since + milliseconds⟩

/-- The verdict of a call whose query was answered at a moment with some records of products
of its catalog. -/
def Purpose.verdict (settings : Settings) (script : Script) (found : Nat) :
    Purpose → List Billing.Sku → Verdict
  | _, [] => ⟨[], .succeeded .notFound, found⟩
  | .lookup, records => ⟨[], .succeeded (.delivered records.length), found⟩
  | .purchase, [record] =>
      .asking .launchPurchase found <|
        settings.judge .launchPurchase script.launch found fun _ shown =>
          ⟨[], .succeeded (.purchaseLaunched (.ofSku record)), shown⟩
  | .purchase, records => ⟨[], .failed (.unexpectedOfferCount 1 records.length), found⟩

/-- The verdict of a call for a catalog that begins at a moment. -/
def Purpose.wholeVerdict (settings : Settings) (script : Script) (began : Nat)
    (purpose : Purpose) (catalog : Catalog.Canonical) : Verdict :=
  .asking .connect began <|
    settings.judge .connect script.setup began fun _ connected =>
      .asking .queryOffers connected <|
        settings.judge .queryOffers script.query connected fun answer found =>
          purpose.verdict settings script found (answer.recordsFor catalog)

/-! ## Turns and verdicts -/

/-- The stage that is asked for, if an action is a question. -/
def asked? (deed : Nat × Action) : Option (Nat × Stage) :=
  match deed.2 with
  | .ask question => some (deed.1, question.stage)
  | _ => none

/-- What a call is still going to do is what a verdict says. -/
structure Meets (course : List (Nat × Action)) (verdict : Verdict) : Prop where
  asks : course.filterMap asked? = verdict.asked
  ends : ∀ ending moment, (∃ purpose, (moment, .finish purpose ending) ∈ course) ↔
    ending = verdict.ending ∧ moment = verdict.moment

theorem asked?_timed {turn : Turn} (silent : ∀ question, .ask question ∉ turn.actions)
    (now : Nat) : (turn.timed now).filterMap asked? = [] := by
  apply List.filterMap_eq_nil_iff.mpr
  rintro ⟨moment, action⟩ member
  have done := (Turn.mem_timed.mp member).2
  cases action with
  | ask question => exact absurd done (silent question)
  | _ => rfl

/-- A turn that ends with a question asks for its stage, and for no other. -/
theorem Turn.Asks.asked {turn : Turn} {awaited : Awaited} {actions : List Action}
    {question : Question} (does : turn.Asks awaited actions question) (now : Nat) :
    (turn.timed now).filterMap asked? = [(now, awaited.stage)] := by
  have before : ((⟨actions, turn.rest⟩ : Turn).timed now).filterMap asked? = [] :=
    asked?_timed does.once now
  have parts : turn.timed now =
      (⟨actions, turn.rest⟩ : Turn).timed now ++ [(now, .ask question)] := by
    simp [Turn.timed, does.asks]
  rw [parts, List.filterMap_append, before, ← does.stage]
  rfl

/-- A turn that ends its call asks nothing. -/
theorem Attempt.NextTurn.silent {attempt : Attempt} {awaited : Awaited} {turn : Turn}
    (form : attempt.NextTurn awaited turn) {ending : Ending} (ends : turn.rest = .finished ending)
    (question : Question) : .ask question ∉ turn.actions := by
  cases form with
  | asks quiet same stage progress => simp at ends
  | @succeeds first outcome line speech =>
      have unasked : .ask question ∉ first := fun member => by simpa using speech _ member
      simp [unasked, hangUp, Action.say]
  | fails quiet still tried =>
      simp [not_mem_of_all quiet, not_mem_of_all still, hangUp, Action.say]
  | cancelled => simp [hangUp, Action.say]

/-- What a call does from a turn on that it takes at a moment. -/
def Turn.course (settings : Settings) (script : Script) (now began : Nat) (turn : Turn) :
    List (Nat × Action) :=
  turn.timed now ++ (turn.rest.status ⟨now, 0, 0⟩ began).course settings script none

section Turns

variable {settings : Settings} {script : Script} {attempt : Attempt} {awaited : Awaited}
  {turn : Turn} {now began : Nat}

/-- The turn that ends a call meets the verdict that it ends then. -/
theorem Attempt.NextTurn.meets_end (form : attempt.NextTurn awaited turn) {ending : Ending}
    (ends : turn.rest = .finished ending) :
    Meets (turn.course settings script now began) ⟨[], ending, now⟩ := by
  have last : turn.course settings script now began = turn.timed now := by
    simp [Turn.course, ends, Rest.status, Status.course]
  rw [last]
  refine ⟨asked?_timed (form.silent ends) now, fun other moment => ?_⟩
  simp only [Turn.mem_timed, exists_and_left, ← form.finished_iff, ends, Rest.finished.injEq]
  grind

/-- A turn that asks for a stage meets the verdict of a call that goes through it. -/
theorem meets_asking {ahead : Awaited} {later : Attempt} {actions : List Action}
    {question : Question} (does : turn.Asks ahead actions question)
    (waits : turn.rest = .waiting later ahead)
    (unfinished : ∀ purpose ending, .finish purpose ending ∉ turn.actions) {verdict : Verdict}
    (meets : Meets ((Status.waiting later ahead 0 now began).course settings script none)
      verdict) :
    Meets (turn.course settings script now began) (.asking ahead.stage now verdict) := by
  rw [Turn.course, waits]
  refine ⟨?_, fun ending moment => ?_⟩
  · rw [List.filterMap_append, does.asked now]
    exact congrArg _ meets.asks
  · have later := meets.ends ending moment
    have nothing : ∀ purpose, (moment, .finish purpose ending) ∉ turn.timed now :=
      fun purpose member => unfinished purpose ending (Turn.mem_timed.mp member).2
    simpa [nothing, Rest.status, Verdict.asking] using later

theorem Attempt.NextTurn.meets_next (form : attempt.NextTurn awaited turn) {later : Attempt}
    {ahead : Awaited} (waits : turn.rest = .waiting later ahead) {verdict : Verdict}
    (meets : Meets ((Status.waiting later ahead 0 now began).course settings script none)
      verdict) :
    Meets (turn.course settings script now began) (.asking ahead.stage now verdict) := by
  obtain ⟨_, actions, question, does⟩ := form.asks_last waits
  refine meets_asking does waits (fun purpose ending finishes => ?_) meets
  have ends := (form.finished_iff ending).mpr ⟨purpose, finishes⟩
  simp [waits] at ends

end Turns

/-! ## A stage by itself -/

theorem Billing.Reply.read_answer (reply : Billing.Reply) : reply.read.1 = reply.answer := by
  unfold Billing.Reply.read Billing.Reply.answer
  cases reply.json with
  | none => rfl
  | some text =>
      cases decoded : Sku.decodeList text <;> simp [decoded, Response.malformed]

/-- Where a stage is given up on, by its allowance. -/
theorem Settings.deadline_allowance {settings : Settings}
    (limited : settings.stageTimeout.seconds ≤ longestTimeout) (since : Nat) :
    (deadline since settings.stageTimeout).map (max since) =
      some (since + settings.allowance since) := by
  have same : settings.stageTimeout.wholeMilliseconds = settings.stageTimeout.roundedUp := by
    unfold Duration.wholeMilliseconds Duration.roundedUp
    omega
  rw [deadline, if_pos limited, Option.map_some, Settings.allowance, same]
  split <;> congr 1 <;> omega

theorem check_ok {result : Billing.Result} (ok : result.code = .ok) (stage : Stage) :
    check stage result = .ok () := by
  simp [check, Billing.Result.disposition, Billing.Code.disposition, ok]

/-- Every code but success is a failure of the stage, of one kind or the other. -/
theorem check_failed {result : Billing.Result} (failed : result.code ≠ .ok) (stage : Stage) :
    ∃ line, check stage result = .error (line, stage.failure result) := by
  unfold check Billing.Result.disposition Stage.failure
  cases code : result.code <;> simp_all [Billing.Code.disposition]

section Judge

variable {settings : Settings} {script : Script} {attempt : Attempt} {awaited : Awaited}
  {since began : Nat}

/-- The turn that follows an answer without success meets the verdict that the stage failed. -/
theorem Attempt.meets_failure {response : Billing.Response} {line : LogLine} {failure : Failure}
    (refused : check awaited.stage response.result = .error (line, failure)) (now : Nat) :
    Meets ((attempt.resume settings awaited response).course settings script now began)
      ⟨[], .failed failure, now⟩ := by
  have form : attempt.NextTurn awaited (attempt.resume settings awaited response) :=
    resume_refused_nextTurn refused
  obtain ⟨first, _, same⟩ := resume_refused settings attempt refused
  exact form.meets_end (same ▸ rfl)

/-- The turn that comes next if nobody gives up. -/
theorem Attempt.upcoming_alone (limited : settings.stageTimeout.seconds ≤ longestTimeout)
    (script : Script) (attempt : Attempt) (awaited : Awaited) (since began : Nat) :
    attempt.upcoming? settings script none began since awaited =
      match (script.cue awaited.stage).wait with
      | .never => some (since + settings.allowance since, attempt.expire settings awaited)
      | .after milliseconds =>
          if settings.allowance since < milliseconds then
            some (since + settings.allowance since, attempt.expire settings awaited)
          else
            some (since + milliseconds,
              attempt.resume settings awaited (script.cue awaited.stage).reply.answer) := by
  have expired : (deadline since settings.stageTimeout).map (fun moment =>
      (max since moment, attempt.expire settings awaited)) =
      some (since + settings.allowance since, attempt.expire settings awaited) := by
    have same := congrArg (Option.map (·, attempt.expire settings awaited))
      (settings.deadline_allowance limited since)
    simpa [Function.comp_def] using same
  simp only [upcoming?, expired, Option.map_none, Billing.Reply.read_answer, Cue.due]
  cases (script.cue awaited.stage).wait with
  | never => rfl
  | after milliseconds =>
      simp only [Option.map_some, earlier]
      split
      · rw [if_neg (by omega)]
      · rw [if_pos (by omega)]

/-- A waiting call meets the judgment of the stage it waits in if it does after success. -/
theorem Status.meets_judge (limited : settings.stageTimeout.seconds ≤ longestTimeout)
    {further : Billing.Response → Nat → Verdict}
    (meets : ∀ now, (script.cue awaited.stage).reply.answer.result.code = .ok →
      Meets ((attempt.resume settings awaited (script.cue awaited.stage).reply.answer).course
        settings script now began) (further (script.cue awaited.stage).reply.answer now)) :
    Meets ((Status.waiting attempt awaited 0 since began).course settings script none)
      (settings.judge awaited.stage (script.cue awaited.stage) since further) := by
  have next : ∀ {now turn}, attempt.Reacts settings awaited turn →
      attempt.upcoming? settings script none began since awaited = some (now, turn) →
      (Status.waiting attempt awaited 0 since began).course settings script none =
        turn.course settings script now began := by
    intro now turn reaction comes
    let scene : Scene := ⟨now, 0, 0⟩
    have comes : attempt.upcoming? settings script none began since awaited =
      some (scene.now, turn) := comes
    exact Status.course_upcoming comes reaction.nextTurn
  have late : attempt.Reacts settings awaited (attempt.expire settings awaited) := .expired
  have answers : attempt.Reacts settings awaited
    (attempt.resume settings awaited (script.cue awaited.stage).reply.answer) := .answered _
  have upcoming := Attempt.upcoming_alone limited script attempt awaited since began
  unfold Settings.judge
  cases wait : (script.cue awaited.stage).wait with
  | never =>
      simp only [wait] at upcoming
      rw [next late upcoming]
      exact late.nextTurn.meets_end rfl
  | after milliseconds =>
      simp only [wait] at upcoming
      by_cases tooLate : settings.allowance since < milliseconds
      · rw [if_pos tooLate] at upcoming
        rw [next late upcoming]
        simpa only [if_pos tooLate] using late.nextTurn.meets_end rfl
      · rw [if_neg tooLate] at upcoming
        rw [next answers upcoming]
        simp only [if_neg tooLate]
        by_cases ok : (script.cue awaited.stage).reply.answer.result.code = .ok
        · simpa only [if_pos ok] using meets _ ok
        · obtain ⟨line, refused⟩ := check_failed ok awaited.stage
          simpa only [if_neg ok] using Attempt.meets_failure refused _

end Judge

/-! ## All stages -/

/-- A first turn connects if the catalog is accepted and the flag is free. -/
theorem Order.FirstTurn.connects {order : Order} {turn : Turn}
    (form : order.FirstTurn false turn) {catalog : Catalog.Canonical}
    (accepted : order.Accepts catalog) :
    .openSession ∈ turn.actions ∧
      turn.rest = .waiting ⟨order.purpose, catalog, order.presentation, .connecting⟩ .setup := by
  obtain ⟨read, filled⟩ := accepted
  cases form with
  | unread refused => simp [read] at refused
  | empty purpose again isEmpty =>
      cases read.symm.trans again
      simp [purpose, isEmpty] at filled
  | notSingle purpose again single =>
      cases read.symm.trans again
      simp [purpose, single] at filled
  | refused purpose again taken => simp at taken
  | opened again free quiet =>
      cases read.symm.trans again.1
      exact ⟨by simp, rfl⟩

section Verdicts

variable {settings : Settings} {script : Script} {attempt : Attempt} {now began : Nat}

/-- The turn that follows a purchase flow that was shown. -/
theorem Attempt.meets_launched {record : Billing.Sku} {response : Billing.Response}
    (ok : response.result.code = .ok) :
    Meets ((attempt.resume settings (.launch record) response).course settings script now began)
      ⟨[], .succeeded (.purchaseLaunched (.ofSku record)), now⟩ := by
  have passed := check_ok ok .launchPurchase
  have form : attempt.NextTurn (.launch record)
    (attempt.resume settings (.launch record) response) := resume_passed_nextTurn passed
  exact form.meets_end (by rw [resume_launch passed]; rfl)

variable (limited : settings.stageTimeout.seconds ≤ longestTimeout)
include limited

/-- The turn that shows a purchase flow for a record. -/
theorem Attempt.meets_launch (record : Billing.Sku) {dropped : List Action}
    (quiet : ∀ action ∈ dropped, action.isRemark = true) :
    Meets (((attempt.launch [record]).after dropped).course settings script now began)
      (.asking .launchPurchase now <|
        settings.judge .launchPurchase script.launch now fun _ shown =>
          ⟨[], .succeeded (.purchaseLaunched (.ofSku record)), shown⟩) := by
  refine (attempt.launch_nextTurn [record] dropped quiet).meets_next rfl
    (Status.meets_judge limited fun shown ok => meets_launched ok)

/-- The turn that follows the answer to the query. -/
theorem Attempt.meets_offers {response : Billing.Response} (ok : response.result.code = .ok) :
    Meets ((attempt.resume settings .offers response).course settings script now began)
      (attempt.purpose.verdict settings script now (response.recordsFor attempt.catalog)) := by
  have quiet := attempt.requested_remarks response
  rw [resume_offers (check_ok ok _), ← requested_eq]
  generalize (attempt.requested response).1 = records
  cases attempt.purpose with
  | lookup =>
      have form := attempt.deliver_nextTurn .offers records _ quiet
      cases records with
      | nil => exact form.meets_end rfl
      | cons record records =>
          have counted : Catalog.Platform.size ⟨(record :: records).map .ofSku⟩ =
            (record :: records).length := List.length_map ..
          rw [Purpose.verdict, ← counted]
          · exact form.meets_end rfl
          · simp
  | purchase =>
      have form := attempt.launch_nextTurn records _ quiet
      match records with
      | [] => exact form.meets_end rfl
      | [record] => exact attempt.meets_launch limited record quiet
      | first :: second :: others => exact form.meets_end rfl

/-- The turn that follows a connection that was set up. -/
theorem Attempt.meets_setup {response : Billing.Response} (ok : response.result.code = .ok) :
    Meets ((attempt.resume settings .setup response).course settings script now began)
      (.asking .queryOffers now <|
        settings.judge .queryOffers script.query now fun answer found =>
          attempt.purpose.verdict settings script found (answer.recordsFor attempt.catalog)) := by
  have passed := check_ok ok .connect
  have form : attempt.NextTurn .setup (attempt.resume settings .setup response) :=
    resume_passed_nextTurn passed
  have waits : (attempt.resume settings .setup response).rest =
      .waiting (attempt.move .connected).1 .offers := by
    rw [resume_setup passed]
    rfl
  exact form.meets_next waits (Status.meets_judge limited fun found ok =>
    (attempt.move .connected).1.meets_offers limited ok)

/-- A call for an accepted catalog that is not refused meets the whole verdict. -/
theorem Order.meets_wholeVerdict {order : Order} {catalog : Catalog.Canonical}
    (accepted : order.Accepts catalog) :
    Meets (order.course settings script none began)
      (order.purpose.wholeVerdict settings script began catalog) := by
  have same : order.course settings script none began =
      (order.start false).course settings script began began := rfl
  rw [same]
  have form := order.start_firstTurn false
  obtain ⟨_, waits⟩ := form.connects accepted
  obtain ⟨actions, question, does⟩ := form.asks_last waits
  refine meets_asking does waits (fun purpose ending finishes => ?_)
    (Status.meets_judge limited fun connected ok => Attempt.meets_setup limited ok)
  have ends := (form.finished_iff ending).mpr ⟨purpose, finishes⟩
  simp [waits] at ends

end Verdicts

/-- The stages a call asked for, and when. -/
def Timeline.stagesOf {World Show Signal : Type} (index : Nat)
    (timeline : Timeline World Show Signal) : List (Nat × Stage) :=
  (timed index timeline.service.deeds).filterMap asked?

/-- Which stage decides, and when. A call that is alone with its script, whatever that holds,
and is not given up on ends as the verdict for its catalog says and when it says, after it
went through the stages that the verdict names at the moments it names. -/
theorem Call.stage_decides (script : Script) (quiet : Bool) {settings : Settings}
    (limited : settings.stageTimeout.seconds ≤ longestTimeout) {order : Order}
    {catalog : Catalog.Canonical} (accepted : order.Accepts catalog) (moment : Nat) :
    let lone := (Call.alone { order := order } moment).run (scripted [script] quiet) settings
    let verdict := order.purpose.wholeVerdict settings script moment catalog
    lone.calls.map (·.status) = [.finished verdict.ending verdict.moment] ∧
      lone.stagesOf 0 = verdict.asked := by
  intro lone verdict
  obtain ⟨opens, _⟩ := (order.start_firstTurn false).connects accepted
  let call : Call := { order := order }
  have course : timed 0 lone.service.deeds = order.course settings script none moment :=
    call.alone_course script quiet settings moment opens
  have meets : Meets (timed 0 lone.service.deeds) verdict :=
    course ▸ order.meets_wholeVerdict limited accepted
  obtain ⟨twin, _, calls, _⟩ := call.alone_run script quiet settings moment
  have calls : lone.calls = [twin] := calls
  have story := (call.alone_fresh moment).story (Timeline.run_interleaves _ _ _)
    (by simp [calls] : lone.calls[0]? = some twin)
  have ends := (story.finished_iff verdict.ending verdict.moment).mpr
    ((meets.ends _ _).mpr ⟨rfl, rfl⟩)
  exact ⟨by simp [calls, ends], meets.asks⟩

/-- A session whose first stage is answered with the timeout and whose last one after it. -/
def tight : Script :=
  let priced :=
    "[\x7b\"productId\":\"premium\",\"price\":\"1\",\"price_currency_code\":\"EUR\"\x7d]"
  { setup := { wait := .after 2 },
    query := { wait := .after 1, reply := { json := some priced } },
    launch := { wait := .after 3, reply := { result := ⟨.userCanceled, ""⟩ } } }

/-- The purchase gets as far as its last stage, which is late whatever its answer. -/
theorem tight_decided :
    let lone := (Call.alone
      { order := ⟨.purchase, .catalog ⟨[⟨false, "subs", "premium"⟩]⟩, "activity"⟩ } 7).run
      (scripted [tight] true) { stageTimeout := ⟨0, 1500000⟩ }
    lone.calls.map (·.status) =
        [.finished (.failed (.timedOut .launchPurchase ⟨0, 1500000⟩)) 12] ∧
      lone.stagesOf 0 = [(7, .connect), (9, .queryOffers), (10, .launchPurchase)] := by
  let settings : Settings := { stageTimeout := ⟨0, 1500000⟩ }
  let order : Order := ⟨.purchase, .catalog ⟨[⟨false, "subs", "premium"⟩]⟩, "activity"⟩
  have limited : settings.stageTimeout.seconds ≤ longestTimeout := Nat.zero_le _
  have accepted : order.Accepts ⟨[⟨false, "subs", "premium"⟩]⟩ := ⟨rfl, _, rfl⟩
  have verdict : order.purpose.wholeVerdict settings tight 7 ⟨[⟨false, "subs", "premium"⟩]⟩ =
      ⟨[(7, .connect), (9, .queryOffers), (10, .launchPurchase)],
        .failed (.timedOut .launchPurchase ⟨0, 1500000⟩), 12⟩ := by
    decide +kernel
  have decided := Call.stage_decides tight true limited accepted 7
  rwa [verdict] at decided

end Storefront
