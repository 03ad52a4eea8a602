import Storefront.Proofs.Course
import Storefront.Proofs.Exclusion

/-!
# Calls that follow scripts

`Timeline.Fresh.follows` finds every call on its course, whatever else happens, if the backend
obeys scripts. A scripted backend obeys its own, so `Call.alone_course` knows all that a call
does by itself.
-/

namespace Storefront

variable {World Show Signal : Type}

namespace Timeline

variable {backend : Backend World Show Signal} {settings : Settings}
  {origin timeline : Timeline World Show Signal} {now done : Nat}

/-- Everybody who waits is punctual. -/
def IsPunctual (backend : Backend World Show Signal) (settings : Settings) (now : Nat)
    (timeline : Timeline World Show Signal) : Prop :=
  ∀ {index : Nat} {call : Call} {attempt awaited session since began},
    timeline.calls[index]? = some call →
    call.status = .waiting attempt awaited session since began →
    Punctual backend settings now call.patience awaited session since began

/-- A call that waits after a turn waits since then, unless it waited before. -/
theorem IsPunctual.taken {scene : Scene} {start : Nat} {turn : Turn} {taker : Call}
    (punctual : timeline.IsPunctual backend settings scene.now) :
    (timeline.takeTurn backend scene start turn taker).IsPunctual backend settings scene.now := by
  intro index call attempt awaited session since began found waits
  rcases takeTurn_found found with ⟨rfl, rfl⟩ | ⟨other, before⟩
  · cases rest : turn.rest with
    | waiting later ahead =>
        simp only [rest, Rest.status, Status.waiting.injEq] at waits
        obtain ⟨rfl, rfl, rfl, rfl, rfl⟩ := waits
        exact ⟨Nat.le_refl _, fun _ _ => Nat.le_max_left .., fun _ _ => Nat.le_max_left ..,
          fun _ _ _ => Nat.le_max_left ..⟩
    | finished ending => simp [rest, Rest.status] at waits
  · exact punctual before waits

/-- Time goes on no further than to the next moment at which something is due. -/
theorem IsPunctual.wakes (steady : backend.Steady) {later : Nat}
    (punctual : timeline.IsPunctual backend settings now) (forward : now ≤ later)
    (idle : timeline.Awaits backend settings later) :
    timeline.IsPunctual backend settings later := by
  intro index call attempt awaited session since began found waits
  obtain ⟨ended, among⟩ := mem_callDues (some 0) found
  have awaits : ∀ due ∈ call.dues backend settings (startOf timeline.sequential ended call)
      timeline.service.world, later ≤ max since due := fun due member =>
    Nat.le_trans (idle due (among due member)) (Nat.le_max_right ..)
  simp only [Call.dues, waits, List.mem_append, Option.mem_toList] at awaits
  refine ⟨Nat.le_trans (punctual found waits).begun forward, ?_, ?_, ?_⟩
  · exact fun moment expiry => awaits moment (.inl (.inl expiry))
  · exact fun limit limited => awaits _ (.inr (by simp [Option.mem_def.mp limited]))
  · intro world moment due
    rw [steady _ _ _ world timeline.service.world] at due
    exact awaits moment (.inl (.inr due))

/-- Nobody is left waiting past a moment at which something is due. -/
theorem Fresh.punctual (fresh : origin.Fresh) (honest : backend.Honest) (steady : backend.Steady)
    (reached : origin.Unfolds backend settings now done timeline) :
    timeline.IsPunctual backend settings now := by
  refine Unfolds.calls_induction
    (motive := fun now timeline => timeline.IsPunctual backend settings now)
    ?first ?starts ?reacts ?stays ?wakes reached
  case first =>
    intro now idle index call attempt awaited session since began found waits
    rw [fresh.idle call (List.mem_of_getElem? found)] at waits
    simp at waits
  case starts => exact fun _ _ _ _ punctual => punctual.taken
  case reacts => exact fun _ _ _ punctual => punctual.taken
  case stays =>
    intro now timeline next calls _ _ punctual index call attempt awaited session since began found
    exact punctual (calls ▸ found)
  case wakes => exact fun idle forward punctual => punctual.wakes steady (forward honest) idle

/-- Nobody starts late who is put off by nothing but a delay. -/
theorem Unfolds.starts_late (reached : origin.Unfolds backend settings now done timeline)
    (atOnce : timeline.sequential = false) {index : Nat} {call : Call}
    (found : timeline.calls[index]? = some call) (idle : call.status = .notStarted) :
    now ≤ call.delay := by
  have dueThen : ∀ {timeline : Timeline World Show Signal} {moment : Nat},
      timeline.Awaits backend settings moment → timeline.sequential = false →
      timeline.calls[index]? = some call → moment ≤ call.delay := by
    intro timeline moment awaits atOnce found
    obtain ⟨ended, among⟩ := mem_callDues (some 0) found
    refine awaits call.delay (among _ ?_)
    simp [Call.dues, idle, startOf, atOnce]
  have others : ∀ {timeline : Timeline World Show Signal} {scene start turn taker},
      (timeline.takeTurn backend scene start turn taker).calls[index]? = some call →
      timeline.calls[index]? = some call := by
    intro timeline scene start turn taker found
    rcases takeTurn_found found with ⟨_, rfl⟩ | ⟨_, before⟩
    · exact absurd idle (Rest.status_ne_notStarted _ _ _)
    · exact before
  refine Unfolds.calls_induction
    (motive := fun now timeline => timeline.sequential = false →
      timeline.calls[index]? = some call → now ≤ call.delay)
    ?first ?starts ?reacts ?stays ?wakes reached atOnce found
  case first => exact dueThen
  case starts => exact fun _ _ _ _ early atOnce found => early atOnce (others found)
  case reacts => exact fun _ _ _ early atOnce found => early atOnce (others found)
  case stays =>
    exact fun timeline next calls sequential _ early atOnce found =>
      early (sequential ▸ atOnce) (calls ▸ found)
  case wakes => exact fun idle _ _ => dueThen idle

/-- A call began after its delay. If it is alone, it was not refused. -/
def BeganOnTime (timeline : Timeline World Show Signal) (index : Nat) (call : Call) : Prop :=
  ∃ busy session, (busy = true → 1 < timeline.calls.length) ∧
    ∀ action ∈ (call.order.start busy).actions,
      ⟨⟨call.delay, index, session⟩, action⟩ ∈ timeline.service.deeds

theorem BeganOnTime.later {index : Nat} {call : Call} (began : timeline.BeganOnTime index call)
    {next : Timeline World Show Signal} (calls : next.calls.length = timeline.calls.length)
    {new : List Deed} (deeds : next.service.deeds = timeline.service.deeds ++ new) :
    next.BeganOnTime index call := by
  obtain ⟨busy, session, alone, begins⟩ := began
  refine ⟨busy, session, calls ▸ alone, fun action member => ?_⟩
  rw [deeds]
  exact List.mem_append_left _ (begins action member)

/-- A call that is alone finds the flag free. -/
theorem Claimed.others (claimed : timeline.Claimed) {index : Nat} {call : Call}
    (found : timeline.calls[index]? = some call) (idle : call.status = .notStarted)
    (busy : timeline.service.busy = true) : 1 < timeline.calls.length := by
  obtain ⟨other, buyer, isThere, _, attempt, awaited, session, since, began, waits⟩ :=
    claimed.busy_iff.mp busy
  have distinct : index ≠ other := by
    rintro rfl
    rw [found, Option.some.injEq] at isThere
    simp [← isThere, idle] at waits
  have inside := (List.getElem?_eq_some_iff.mp found).1
  have otherInside := (List.getElem?_eq_some_iff.mp isThere).1
  omega

/-- Every call that is put off by nothing but its delay begins after exactly that. -/
theorem Fresh.began_onTime (fresh : origin.Fresh)
    (reached : origin.Unfolds backend settings now done timeline)
    (atOnce : timeline.sequential = false) {index : Nat} {call : Call}
    (found : timeline.calls[index]? = some call) (begun : call.status ≠ .notStarted) :
    timeline.BeganOnTime index call := by
  refine Unfolds.calls_induction
    (motive := fun now timeline => timeline.sequential = false → ∀ {call : Call},
      timeline.calls[index]? = some call → call.status ≠ .notStarted →
      timeline.BeganOnTime index call)
    ?first ?starts ?reacts ?stays ?wakes reached atOnce found begun
  case first =>
    intro now idle atOnce call found begun
    exact absurd (fresh.idle call (List.mem_of_getElem? found)) begun
  case starts =>
    intro now done timeline taker prior isThere idle due began atOnce call found begun
    rcases takeTurn_found found with ⟨rfl, rfl⟩ | ⟨other, before⟩
    · have onTime : now = taker.delay :=
        Nat.le_antisymm (prior.starts_late atOnce isThere idle) (due atOnce)
      refine ⟨timeline.service.busy, timeline.service.opened + 1, fun busy => ?_,
        fun action member => ?_⟩
      · simpa using (fresh.claimed_reached prior.interleaves).others isThere idle busy
      · rw [takeTurn_deeds]
        refine List.mem_append_right _ ((Turn.mem_deeds _ _).mpr ⟨?_, member⟩)
        simp [onTime]
    · exact (began atOnce before begun).later (by simp) (takeTurn_deeds ..)
  case reacts =>
    intro now done timeline taker attempt awaited session since start turn isThere waits reaction
      began atOnce call found begun
    have before : ∃ same : Call, timeline.calls[index]? = some same ∧
        same.status ≠ .notStarted ∧ same.order = call.order ∧ same.delay = call.delay := by
      rcases takeTurn_found found with ⟨rfl, rfl⟩ | ⟨other, before⟩
      · exact ⟨taker, isThere, by simp [waits], rfl, rfl⟩
      · exact ⟨call, before, begun, rfl, rfl⟩
    obtain ⟨same, before, started, order, delay⟩ := before
    have began := began atOnce before started
    rw [BeganOnTime, order, delay] at began
    exact BeganOnTime.later began (by simp) (takeTurn_deeds ..)
  case stays =>
    intro now timeline next calls sequential deeds began atOnce call found begun
    have before := began (sequential ▸ atOnce) (calls ▸ found) begun
    exact before.later (by rw [calls]) (by rw [deeds, List.append_nil])
  case wakes => exact fun idle _ began => began

/-- Whoever waits at an index is answered as the script of the session says, in every run up
to a journal: with what the script holds and when it is due, and not before. -/
structure Obeys (backend : Backend World Show Signal) (settings : Settings)
    (origin : Timeline World Show Signal) (script : Nat → Script)
    (journal : List (Entry Show)) : Prop where
  answered : ∀ {now done timeline call attempt awaited session since began response},
    origin.Unfolds backend settings now done timeline → timeline.calls[done]? = some call →
    call.status = .waiting attempt awaited session since began →
    timeline.heard backend ⟨now, done, session⟩ awaited.stage since = some response →
    timeline.service.journal <+: journal →
    ((script session).cue awaited.stage).due since = some now ∧
      ((script session).cue awaited.stage).reply.read.1 = response
  unanswered : ∀ {now done timeline call attempt awaited session since began turn ending},
    origin.Unfolds backend settings now done timeline → timeline.calls[done]? = some call →
    call.status = .waiting attempt awaited session since began →
    timeline.service.Unheard backend ⟨now, done, session⟩ awaited.stage since →
    attempt.NextTurn awaited turn → turn.rest = .finished ending →
    (timeline.takeTurn backend ⟨now, done, session⟩ began turn call).service.journal <+: journal →
    ∀ moment ∈ ((script session).cue awaited.stage).due since, now < moment

/-- Every call that opened a session follows the course that the session's script fixes. -/
def Follow (settings : Settings) (script : Nat → Script)
    (timeline : Timeline World Show Signal) : Prop :=
  ∀ (scene : Scene) (call : Call), timeline.calls[scene.call]? = some call →
    ⟨scene, .openSession⟩ ∈ timeline.service.deeds →
    call.Follows settings (script scene.session) scene.now
      (timed scene.call timeline.service.deeds)

theorem Follow.same {script : Nat → Script} (follow : timeline.Follow settings script)
    {next : Timeline World Show Signal} (calls : next.calls = timeline.calls)
    (deeds : next.service.deeds = timeline.service.deeds) : next.Follow settings script := by
  intro scene call found opened
  rw [deeds] at opened ⊢
  exact follow scene call (calls ▸ found) opened

theorem Follow.look {script : Nat → Script} (follow : timeline.Follow settings script)
    (scene : Scene) (stage : Stage) (since : Nat) :
    (timeline.look backend scene stage since).Follow settings script :=
  follow.same rfl (Service.poll_deeds ..)

section Follow

variable {script : Nat → Script} (follow : timeline.Follow settings script) (fresh : origin.Fresh)
  (prior : origin.Interleaves backend settings timeline) {taker : Call}
  (isThere : timeline.calls[done]? = some taker)
include follow fresh prior isThere

/-- The call that starts is at the beginning of its course. -/
theorem Follow.start (idle : taker.status = .notStarted) :
    (timeline.takeTurn backend ⟨now, done, timeline.service.opened + 1⟩ now
      (taker.order.start timeline.service.busy) taker).Follow settings script := by
  intro scene call found opened
  rw [takeTurn_deeds, timed_append, timed_deeds]
  rw [takeTurn_deeds, List.mem_append, Turn.mem_deeds] at opened
  rcases takeTurn_found found with ⟨rfl, rfl⟩ | ⟨other, before⟩
  · have nothing : deedsOf scene.call timeline.service.deeds = [] :=
      (fresh.story prior isThere).unstarted_deeds idle
    rcases opened with already | ⟨here, opens⟩
    · have own := mem_deedsOf.mpr ⟨already, rfl⟩
      simp [nothing] at own
    · have here : scene = ⟨now, scene.call, timeline.service.opened + 1⟩ := here
      rw [if_pos rfl, timed, nothing, here]
      exact .start (Order.start_free opens)
  · rw [if_neg other, List.append_nil]
    rcases opened with already | ⟨here, _⟩
    · exact follow _ _ before already
    · exact absurd (congrArg Scene.call here) other

/-- The call that takes the turn that comes next goes on in its course. -/
theorem Follow.react {attempt : Attempt} {awaited : Awaited} {session since began : Nat}
    {turn : Turn} (waits : taker.status = .waiting attempt awaited session since began)
    (next : attempt.upcoming? settings (script session) taker.patience began since awaited =
      some (now, turn))
    (form : attempt.NextTurn awaited turn) :
    (timeline.takeTurn backend ⟨now, done, session⟩ began turn taker).Follow settings script := by
  intro scene call found opened
  rw [takeTurn_deeds, timed_append, timed_deeds]
  rw [takeTurn_deeds, List.mem_append, Turn.mem_deeds] at opened
  have already := opened.resolve_right fun inTurn => form.opens_nothing inTurn.2
  rcases takeTurn_found found with ⟨rfl, rfl⟩ | ⟨other, before⟩
  · have here : scene.session = session :=
      (fresh.story prior isThere).waiting_session waits (mem_deedsOf.mpr ⟨already, rfl⟩)
    have follows := follow _ _ isThere already
    rw [here] at follows ⊢
    rw [if_pos rfl]
    exact follows.react waits next form
  · rw [if_neg other, List.append_nil]
    exact follow _ _ before already

end Follow

/-- On a backend that obeys scripts every call follows its course, whatever the others do. -/
theorem Fresh.follows (fresh : origin.Fresh) (honest : backend.Honest) (steady : backend.Steady)
    {script : Nat → Script} {journal : List (Entry Show)}
    (obeys : origin.Obeys backend settings script journal)
    (reached : origin.Unfolds backend settings now done timeline)
    (within : timeline.service.journal <+: journal) : timeline.Follow settings script := by
  induction reached with
  | origin now idle =>
      intro scene call found opened
      simp [fresh.deeds] at opened
  | start prior found idle due inductionHypothesis =>
      have before := inductionHypothesis ((takeTurn_journal ..).trans within)
      exact before.start fresh prior.interleaves found idle
  | look prior found waits unheard inductionHypothesis =>
      exact (inductionHypothesis ((look_journal ..).trans within)).look _ _ _
  | answer prior found waits heard inductionHypothesis =>
      have looked := (look_journal ..).trans ((takeTurn_journal ..).trans within)
      have before := inductionHypothesis looked
      have punctual := fresh.punctual honest steady prior found waits
      obtain ⟨due, rfl⟩ := obeys.answered prior found waits heard looked
      exact (before.look _ _ _).react fresh (prior.interleaves.step (.poll _ _ _)) found waits
        (punctual.upcoming_answered due) (Attempt.Reacts.answered _).nextTurn
  | @expire now done timeline taker attempt awaited session since start prior found waits unheard
      late inductionHypothesis =>
      have looked := prior.look found waits unheard
      have before := inductionHypothesis ((look_journal ..).trans
        ((takeTurn_journal ..).trans within))
      have punctual := fresh.punctual honest steady prior found waits
      have expires : attempt.Reacts settings awaited (attempt.expire settings awaited) := .expired
      have form := expires.nextTurn
      have unanswered := obeys.unanswered looked found waits ⟨_, unheard, rfl⟩ form rfl within
      exact (before.look _ _ _).react fresh looked.interleaves found waits
        (punctual.upcoming_expired unanswered late) form
  | @cancel now done timeline taker attempt awaited session since start _ prior found waits settled
      limited due inductionHypothesis =>
      have before := inductionHypothesis ((takeTurn_journal ..).trans within)
      have punctual := fresh.punctual honest steady prior found waits
      obtain ⟨early, unheard⟩ := settled _ _ _ _ _ waits
      have cancels : attempt.Reacts settings awaited attempt.cancel := .cancelled
      have form := cancels.nextTurn
      have unanswered := obeys.unanswered prior found waits unheard form rfl within
      exact before.react fresh prior.interleaves found waits
        (punctual.upcoming_cancelled unanswered early limited due) form
  | pass prior found settled inductionHypothesis => exact inductionHypothesis within
  | again prior inductionHypothesis => exact inductionHypothesis within
  | receive prior signal inductionHypothesis =>
      have before := inductionHypothesis ((Service.receive_journal ..).trans within)
      exact before.same rfl (Service.receive_deeds ..)
  | queue prior signals inductionHypothesis => exact inductionHypothesis within
  | wake prior idle forward inductionHypothesis => exact inductionHypothesis within

/-- In a run on a backend that obeys scripts, a call that opened a session does all of its
course, and no more. -/
theorem Fresh.run_course (fresh : origin.Fresh) (honest : backend.Honest) (steady : backend.Steady)
    {script : Nat → Script}
    (obeys : origin.Obeys backend settings script (origin.run backend settings).service.journal)
    {scene : Scene} {call : Call}
    (found : (origin.run backend settings).calls[scene.call]? = some call)
    (opened : ⟨scene, .openSession⟩ ∈ (origin.run backend settings).service.deeds)
    (silent : ∀ {now attempt awaited since began},
      origin.Unfolds backend settings now (origin.run backend settings).calls.length
        (origin.run backend settings) →
      call.status = .waiting attempt awaited scene.session since began →
      backend.due scene.session awaited.stage since (origin.run backend settings).service.world =
        none →
      ((script scene.session).cue awaited.stage).due since = none) :
    timed scene.call (origin.run backend settings).service.deeds =
      call.order.course settings (script scene.session) call.patience scene.now := by
  have story := fresh.story (run_interleaves backend settings origin) found
  have own := mem_deedsOf.mpr ⟨opened, rfl⟩
  have begun : call.status ≠ .notStarted := by
    intro idle
    simp [story.unstarted_deeds idle] at own
  obtain ⟨now, reached⟩ := fresh.run_unfolds found begun
  have follows := fresh.follows honest steady obeys reached List.prefix_rfl scene call found opened
  have drained : (origin.run backend settings).Drained backend settings :=
    run_drained honest origin
  apply follows.done
  rcases drained.left found with ends | stranded | ⟨idle, _⟩
  · cases status : call.status with
    | finished ending ended => exact Status.course_finished rfl
    | notStarted => exact absurd status begun
    | waiting => simp [Call.isOver, status] at ends
  · apply Call.course_stranded stranded
    intro attempt awaited session since began waits undue
    obtain rfl : scene.session = session := story.waiting_session waits own
    exact silent reached waits undue
  · exact absurd idle begun

end Timeline

/-- A first turn after which its call waits opened a session. -/
theorem Order.FirstTurn.opens {order : Order} {busy : Bool} {turn : Turn}
    (form : order.FirstTurn busy turn) {attempt : Attempt} {awaited : Awaited}
    (waits : turn.rest = .waiting attempt awaited) : .openSession ∈ turn.actions := by
  cases form with
  | opened accepted free quiet => simp
  | unread | empty | notSingle | refused => simp at waits

/-- A call that began opened a session, or was over at once. -/
theorem Story.begun {settings : Settings} {order : Order} {index : Nat} {status : Status}
    {deeds : List Deed} (story : Story settings order index status deeds) {scene : Scene}
    (began : ⟨scene, .begin⟩ ∈ deeds) :
    ⟨scene, .openSession⟩ ∈ deeds ∨ ∃ busy ending, deeds = (order.start busy).deeds scene ∧
      (order.start busy).rest = .finished ending ∧ status = .finished ending scene.now := by
  induction story with
  | unstarted => simp at began
  | started now session busy =>
      obtain ⟨rfl, _⟩ := (Turn.mem_deeds _ _).mp began
      cases rest : (order.start busy).rest with
      | waiting attempt awaited =>
          have opens := (order.start_firstTurn busy).opens rest
          exact .inl ((Turn.mem_deeds _ _).mpr ⟨rfl, opens⟩)
      | finished ending => exact .inr ⟨busy, ending, rfl, rest, rfl⟩
  | reacted now prior reaction inductionHypothesis =>
      rcases List.mem_append.mp began with before | inTurn
      · rcases inductionHypothesis before with opened | ⟨_, _, _, _, ends⟩
        · exact .inl (List.mem_append_left _ opened)
        · simp at ends
      · have starts := ((Turn.mem_deeds _ _).mp inTurn).2
        exact absurd starts reaction.nextTurn.starts_nothing.1

section Scripted

variable {scripts : List Script} {quiet : Bool} {settings : Settings}

/-- What a scripted session finds is what its script holds, from when it is due. -/
theorem scripted_poll (scene : Scene) (stage : Stage) (since : Nat)
    (service : Service Unit Recorded) :
    (service.poll (scripted scripts quiet) scene stage since).1 =
      if (((scriptOf scripts scene.session).cue stage).due since).any (· ≤ scene.now) then
        some ((scriptOf scripts scene.session).cue stage).reply.read.1
      else none := by
  simp only [Service.poll, scripted]
  split <;> rfl

theorem Cue.since_le_due {cue : Cue} {since moment : Nat} (due : cue.due since = some moment) :
    since ≤ moment := by
  unfold Cue.due at due
  split at due
  · simp only [Option.some.injEq] at due
    omega
  · simp at due

/-- A scripted backend obeys its scripts, whatever it journals. -/
theorem scripted_obeys {origin : Timeline Unit Recorded Empty} (fresh : origin.Fresh)
    (journal : List (Entry Recorded)) :
    origin.Obeys (scripted scripts quiet) settings (scriptOf scripts) journal where
  answered {now done timeline call attempt awaited session since began response} reached found
      waits heard _ := by
    have punctual := fresh.punctual (scripted_honest scripts quiet) (scripted_steady scripts quiet)
      reached found waits
    rw [Timeline.heard, scripted_poll] at heard
    split at heard
    · next inTime =>
      obtain ⟨moment, due, past⟩ := (Option.any_eq_true _ _).mp inTime
      have onTime := punctual.unanswered () moment due
      have after := Cue.since_le_due due
      have exact : moment = now := by
        simp only [decide_eq_true_eq] at past
        omega
      exact ⟨exact ▸ due, Option.some.inj heard⟩
    · simp at heard
  unanswered _ _ _ unheard _ _ _ moment due := by
    obtain ⟨before, none, _⟩ := unheard
    rw [scripted_poll, due] at none
    simpa using none

/-- In a run on a scripted backend, a call that opened a session does all of the course that the
session's script fixes, and no more. -/
theorem Timeline.Fresh.scripted_course {origin : Timeline Unit Recorded Empty}
    (fresh : origin.Fresh) {scene : Scene} {call : Call}
    (found : (origin.run (scripted scripts quiet) settings).calls[scene.call]? = some call)
    (opened : ⟨scene, .openSession⟩ ∈
      (origin.run (scripted scripts quiet) settings).service.deeds) :
    timed scene.call (origin.run (scripted scripts quiet) settings).service.deeds =
      call.order.course settings (scriptOf scripts scene.session) call.patience scene.now :=
  fresh.run_course (scripted_honest scripts quiet) (scripted_steady scripts quiet)
    (scripted_obeys fresh _) found opened fun _ _ undue => undue

/-- In a run on a scripted backend, a call that was not refused does all of the course that the
script of its session fixes, and no more. -/
theorem Timeline.Fresh.begun_course {origin : Timeline Unit Recorded Empty} (fresh : origin.Fresh)
    {scene : Scene} {call : Call}
    (found : (origin.run (scripted scripts quiet) settings).calls[scene.call]? = some call)
    (began : ⟨scene, .begin⟩ ∈ (origin.run (scripted scripts quiet) settings).service.deeds)
    (free : call.order.purpose = .lookup ∨
      .openSession ∈ actionsOf scene.call
        (origin.run (scripted scripts quiet) settings).service.deeds) :
    timed scene.call (origin.run (scripted scripts quiet) settings).service.deeds =
      call.order.course settings (scriptOf scripts scene.session) call.patience scene.now := by
  have story := fresh.story (Timeline.run_interleaves _ _ _) found
  rcases story.begun (mem_deedsOf.mpr ⟨began, rfl⟩) with opened | ⟨busy, ending, deeds, ends, _⟩
  · exact fresh.scripted_course found (mem_deedsOf.mp opened).1
  · rw [actionsOf, deeds, Turn.deeds_actions] at free
    have alike : call.order.start busy = call.order.start false :=
      free.elim Order.start_lookup Order.start_free
    rw [timed, deeds, Order.course, ← alike, ends]
    simp [Turn.deeds, Turn.timed, Rest.status, Status.course]

end Scripted

/-- A call by itself that starts at a moment. -/
def Call.alone (call : Call) (moment : Nat) : Timeline Unit Recorded Empty where
  calls := [{ call with delay := moment, status := .notStarted }]
  service := { world := () }

theorem Call.alone_fresh (call : Call) (moment : Nat) : (call.alone moment).Fresh :=
  ⟨by simp [Call.alone], rfl, rfl, rfl⟩

theorem scriptOf_singleton (script : Script) (session : Nat) :
    scriptOf [script] session = script := by
  unfold scriptOf
  cases session - 1 <;> rfl

namespace Call

section Alone

variable {backend : Backend Unit Recorded Empty} {settings : Settings} {call : Call} {moment : Nat}
  {timeline : Timeline Unit Recorded Empty}

/-- A call that is alone stays the only one, with all that was planned for it. -/
theorem alone_twin (reached : (call.alone moment).Interleaves backend settings timeline) :
    timeline.sequential = false ∧ ∃ twin, timeline.calls = [twin] ∧ twin.order = call.order ∧
      twin.delay = moment ∧ twin.patience = call.patience := by
  obtain ⟨atOnce, plans⟩ := reached.plans
  refine ⟨atOnce, ?_⟩
  simpa [alone, List.map_eq_singleton_iff] using plans

/-- What a run of one call alone comes to, whatever scripts there are. -/
theorem alone_drained (scripts : List Script) (quiet : Bool) (settings : Settings) (call : Call)
    (moment : Nat) :
    ∃ twin now, ((call.alone moment).run (scripted scripts quiet) settings).calls = [twin] ∧
      twin.order = call.order ∧ twin.delay = moment ∧ twin.patience = call.patience ∧
      twin.status ≠ .notStarted ∧
      (twin.isOver = true ∨ twin.Stranded (scripted scripts quiet) settings ()) ∧
      ((call.alone moment).run (scripted scripts quiet) settings).sequential = false ∧
      (call.alone moment).Unfolds (scripted scripts quiet) settings now
        ((call.alone moment).run (scripted scripts quiet) settings).calls.length
        ((call.alone moment).run (scripted scripts quiet) settings) := by
  have drained : ((call.alone moment).run (scripted scripts quiet) settings).Drained
    (scripted scripts quiet) settings := Timeline.run_drained (scripted_honest _ _) _
  obtain ⟨atOnce, twin, calls, order, delay, patience⟩ := alone_twin
    (Timeline.run_interleaves (scripted scripts quiet) settings (call.alone moment))
  have found : ((call.alone moment).run (scripted scripts quiet) settings).calls[0]? =
      some twin := by simp [calls]
  have finished : twin.isOver = true ∨ twin.Stranded (scripted scripts quiet) settings () := by
    rcases drained.left found with ends | stranded | ⟨_, inOrder, _⟩
    · exact .inl ends
    · exact .inr stranded
    · rw [atOnce] at inOrder
      exact absurd inOrder (by simp)
  have begun : twin.status ≠ .notStarted := by
    intro idle
    rcases finished with ends | ⟨_, _, _, _, _, waits, _⟩
    · simp [isOver, idle] at ends
    · simp [idle] at waits
  obtain ⟨now, reached⟩ := (call.alone_fresh moment).run_unfolds found begun
  exact ⟨twin, now, calls, order, delay, patience, begun, finished, atOnce, reached⟩

end Alone

variable (script : Script) (quiet : Bool) (settings : Settings) (call : Call) (moment : Nat)

/-- What a run of one call alone comes to. -/
theorem alone_run :
    ∃ twin now, ((call.alone moment).run (scripted [script] quiet) settings).calls = [twin] ∧
      twin.order = call.order ∧ twin.delay = moment ∧ twin.patience = call.patience ∧
      twin.status ≠ .notStarted ∧
      (twin.isOver = true ∨ twin.Stranded (scripted [script] quiet) settings ()) ∧
      ((call.alone moment).run (scripted [script] quiet) settings).sequential = false ∧
      (call.alone moment).Unfolds (scripted [script] quiet) settings now
        ((call.alone moment).run (scripted [script] quiet) settings).calls.length
        ((call.alone moment).run (scripted [script] quiet) settings) :=
  alone_drained [script] quiet settings call moment

/-- A call that is alone begins at once. -/
theorem alone_begins :
    ∃ twin session, ((call.alone moment).run (scripted [script] quiet) settings).calls = [twin] ∧
      twin.order = call.order ∧ twin.patience = call.patience ∧
      ∀ action ∈ (call.order.start false).actions, ⟨⟨moment, 0, session⟩, action⟩ ∈
        ((call.alone moment).run (scripted [script] quiet) settings).service.deeds := by
  obtain ⟨twin, now, calls, order, delay, patience, begun, finished, atOnce, reached⟩ :=
    call.alone_run script quiet settings moment
  have found : ((call.alone moment).run (scripted [script] quiet) settings).calls[0]? =
      some twin := by simp [calls]
  obtain ⟨busy, session, refusable, began⟩ :=
    (call.alone_fresh moment).began_onTime reached atOnce found begun
  have free : busy = false := Bool.eq_false_iff.mpr fun busy => by
    simpa [calls] using refusable busy
  rw [free, order, delay] at began
  exact ⟨twin, session, calls, order, patience, began⟩

/-- A call that is alone with its script does all of its course and no more, even if it is over
at once, unless it is a purchase that opens no session. -/
theorem alone_begun
    (free : call.order.purpose = .lookup ∨ .openSession ∈ (call.order.start false).actions) :
    timed 0 ((call.alone moment).run (scripted [script] quiet) settings).service.deeds =
      call.order.course settings script call.patience moment := by
  obtain ⟨twin, session, calls, order, patience, begins⟩ :=
    call.alone_begins script quiet settings moment
  have found : ((call.alone moment).run (scripted [script] quiet) settings).calls[0]? =
      some twin := by simp [calls]
  obtain ⟨tail, first, _⟩ := call.order.start_begins false
  have opened : twin.order.purpose = .lookup ∨ .openSession ∈ actionsOf 0
      ((call.alone moment).run (scripted [script] quiet) settings).service.deeds := by
    rw [order]
    exact free.imp_right fun opens => mem_actionsOf.mpr ⟨_, begins _ opens, rfl, rfl⟩
  have course := (call.alone_fresh moment).begun_course found (begins .begin (by simp [first]))
    opened
  rwa [order, patience, scriptOf_singleton] at course

/-- A call that is alone and opens a session does all of its course and no more. -/
theorem alone_course (opens : .openSession ∈ (call.order.start false).actions) :
    timed 0 ((call.alone moment).run (scripted [script] quiet) settings).service.deeds =
      call.order.course settings script call.patience moment :=
  call.alone_begun script quiet settings moment (.inr opens)

end Call

end Storefront
