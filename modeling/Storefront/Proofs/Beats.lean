import Storefront.Proofs.Following

/-!
# The journal of a call by itself

A call that is alone with its script leaves nothing open. `Order.beats` lists its turns with
their moments and with the log lines that come with the answers, and `Call.alone_journal` finds
in its journal what these turns leave there, line by line, and nothing else.
-/

namespace Storefront

/-- A turn of a call, when it is taken, and the log lines of the answer it follows. -/
structure Beat where
  now : Nat
  lines : List LogLine
  turn : Turn
deriving DecidableEq, Repr

/-- The log lines of an answer, if it is due at a moment. -/
def Cue.linesAt (cue : Cue) (since now : Nat) : List LogLine :=
  if cue.due since = some now then cue.reply.read.2 else []

theorem Cue.linesAt_early {cue : Cue} {since now : Nat}
    (early : ∀ moment ∈ cue.due since, now < moment) : cue.linesAt since now = [] := by
  apply if_neg
  intro due
  exact absurd (early now due) (Nat.lt_irrefl now)

/-- The turns a waiting attempt is still going to take, in so many stages. -/
def Attempt.beats (settings : Settings) (script : Script) (patience : Option Nat) (began : Nat) :
    (stages since : Nat) → Attempt → Awaited → List Beat
  | 0, _, _, _ => []
  | stages + 1, since, attempt, awaited =>
      match attempt.upcoming? settings script patience began since awaited with
      | none => []
      | some (now, turn) =>
          ⟨now, (script.cue awaited.stage).linesAt since now, turn⟩ ::
            match turn.rest with
            | .waiting later ahead => later.beats settings script patience began stages now ahead
            | .finished _ => []

/-- The turns a call that has begun is still going to take. -/
def Status.beats (settings : Settings) (script : Script) (patience : Option Nat) :
    Status → List Beat
  | .waiting attempt awaited _ since began =>
      attempt.beats settings script patience began awaited.stagesLeft since awaited
  | _ => []

/-- All turns of a call that is not refused. -/
def Order.beats (settings : Settings) (script : Script) (patience : Option Nat) (began : Nat)
    (order : Order) : List Beat :=
  ⟨began, [], order.start false⟩ ::
    ((order.start false).rest.status ⟨began, 0, 1⟩ began).beats settings script patience

/-- The turns a call is still going to take. -/
def Call.beats (settings : Settings) (script : Script) (call : Call) : List Beat :=
  match call.status with
  | .notStarted => call.order.beats settings script call.patience call.delay
  | status => status.beats settings script call.patience

/-- What an action leaves in the journal of a recording backend. -/
def Action.entries (quiet : Bool) (scene : Scene) (action : Action) : List (Entry Recorded) :=
  ⟨scene.now, some scene, .did action⟩ ::
    (Recorded.ofAction quiet scene.session action).map fun event =>
      ⟨scene.now, some scene, .showed event⟩

/-- What the log lines of an answer leave in the journal. -/
def loggedAt (scene : Scene) (lines : List LogLine) : List (Entry Recorded) :=
  lines.map fun line => ⟨scene.now, some scene, .showed (.log line)⟩

/-- What a turn leaves in the journal when a call takes it that is alone. -/
def Beat.entries (quiet : Bool) (beat : Beat) : List (Entry Recorded) :=
  loggedAt ⟨beat.now, 0, 1⟩ beat.lines ++
    beat.turn.actions.flatMap (Action.entries quiet ⟨beat.now, 0, 1⟩)

/-- What the turns of a call that is alone leave in the journal, one after the other. -/
def journalOf (quiet : Bool) (beats : List Beat) : List (Entry Recorded) :=
  beats.flatMap (Beat.entries quiet)

@[simp] theorem journalOf_nil (quiet : Bool) : journalOf quiet [] = [] := rfl

@[simp] theorem journalOf_cons (quiet : Bool) (beat : Beat) (beats : List Beat) :
    journalOf quiet (beat :: beats) = beat.entries quiet ++ journalOf quiet beats := rfl

section Scripted

variable {scripts : List Script} {quiet : Bool} {settings : Settings}

theorem scripted_performAll_journal (scene : Scene) (service : Service Unit Recorded)
    (actions : List Action) :
    (service.performAll (scripted scripts quiet) scene actions).journal =
      service.journal ++ actions.flatMap (Action.entries quiet scene) := by
  induction actions generalizing service with
  | nil => simp [Service.performAll]
  | cons action rest inductionHypothesis =>
      rw [Service.performAll_cons, inductionHypothesis, Service.perform_journal, List.flatMap_cons,
        List.append_assoc]
      rfl

/-- A session that finds its answer when it is due shows the answer's log lines. -/
theorem scripted_poll_due (quiet : Bool) {scene : Scene} {stage : Stage} {since : Nat}
    (due : ((scriptOf scripts scene.session).cue stage).due since = some scene.now)
    (service : Service Unit Recorded) :
    (service.poll (scripted scripts quiet) scene stage since).2.journal =
      service.journal ++
        loggedAt scene (((scriptOf scripts scene.session).cue stage).linesAt since scene.now) := by
  simp [Service.poll, Service.note, scripted, Cue.linesAt, loggedAt, due, Function.comp_def]

/-- A session that finds no answer shows nothing. -/
theorem scripted_poll_unheard {scene : Scene} {stage : Stage} {since : Nat}
    {service : Service Unit Recorded}
    (unheard : (service.poll (scripted scripts quiet) scene stage since).1 = none) :
    (service.poll (scripted scripts quiet) scene stage since).2.journal = service.journal := by
  rw [scripted_poll] at unheard
  split at unheard
  · simp at unheard
  · next early => simp [Service.poll, Service.note, scripted, early]

end Scripted

section Beats

variable {settings : Settings} {script : Script} {patience : Option Nat}

/-- The turns still to come do not depend on who waits. -/
theorem Rest.beats_status (rest : Rest) (scene : Scene) (began : Nat) :
    (rest.status scene began).beats settings script patience =
      (rest.status ⟨scene.now, 0, 1⟩ began).beats settings script patience := by
  cases rest <;> rfl

/-- The first of the turns still to come is the one that comes next. -/
theorem Status.beats_upcoming {attempt : Attempt} {awaited : Awaited}
    {session since began : Nat} (scene : Scene) {turn : Turn}
    (next : attempt.upcoming? settings script patience began since awaited =
      some (scene.now, turn))
    (form : attempt.NextTurn awaited turn) :
    (Status.waiting attempt awaited session since began).beats settings script patience =
      ⟨scene.now, (script.cue awaited.stage).linesAt since scene.now, turn⟩ ::
        (turn.rest.status scene began).beats settings script patience := by
  obtain ⟨stages, left⟩ : ∃ stages, awaited.stagesLeft = stages + 1 :=
    Nat.exists_eq_succ_of_ne_zero (Nat.ne_of_gt awaited.stagesLeft_pos)
  rw [Status.beats, left, Attempt.beats]
  simp only [next]
  cases form with
  | asks quiet same stage progress =>
      have fewer : stages = _ := Nat.succ.inj (left.symm.trans progress.symm)
      simp only [Rest.status, Status.beats, fewer]
  | succeeds | fails | cancelled => rfl

/-- Where nothing comes anymore, no turn is taken. -/
theorem Status.beats_none {attempt : Attempt} {awaited : Awaited} {session since began : Nat}
    (nothing : attempt.upcoming? settings script patience began since awaited = none) :
    (Status.waiting attempt awaited session since began).beats settings script patience = [] := by
  obtain ⟨stages, left⟩ : ∃ stages, awaited.stagesLeft = stages + 1 :=
    Nat.exists_eq_succ_of_ne_zero (Nat.ne_of_gt awaited.stagesLeft_pos)
  rw [Status.beats, left, Attempt.beats, nothing]

end Beats

namespace Call

/-- What was journaled and what the turns to come leave in the journal is all that the turns of
a call leave there. -/
structure OnBeat (settings : Settings) (script : Script) (quiet : Bool) (call : Call)
    (journal : List (Entry Recorded)) : Prop where
  first : ∀ attempt awaited session since began,
    call.status = .waiting attempt awaited session since began → session = 1
  whole : journal ++ journalOf quiet (call.beats settings script) =
    journalOf quiet (call.order.beats settings script call.patience call.delay)

namespace OnBeat

variable {settings : Settings} {script : Script} {quiet : Bool} {call : Call}
  {journal : List (Entry Recorded)}

/-- A call that did not start left nothing in the journal. -/
theorem blank (onBeat : call.OnBeat settings script quiet journal)
    (idle : call.status = .notStarted) : journal = [] := by
  have whole := onBeat.whole
  rw [beats, idle] at whole
  exact List.append_left_eq_self.mp whole

/-- The first turn of a call that starts when it is to. -/
theorem start {scene : Scene} (onTime : scene.now = call.delay) (first : scene.session = 1) :
    OnBeat settings script quiet
      { call with status := (call.order.start false).rest.status scene scene.now }
      (Beat.entries quiet ⟨scene.now, [], call.order.start false⟩) where
  first attempt awaited session since began waits := by
    cases rest : (call.order.start false).rest <;> simp_all [Rest.status]
  whole := by
    have begun := Rest.status_ne_notStarted (call.order.start false).rest scene scene.now
    have beats : Call.beats settings script
        { call with status := (call.order.start false).rest.status scene scene.now } =
        ((call.order.start false).rest.status ⟨scene.now, 0, 1⟩ scene.now).beats settings script
          call.patience := by
      rw [← Rest.beats_status, Call.beats]
      split
      · next idle => exact absurd idle begun
      · rfl
    rw [beats, ← onTime]
    rfl

/-- A turn that comes next leaves in the journal what it is to leave there. -/
theorem react (onBeat : call.OnBeat settings script quiet journal) {attempt : Attempt}
    {awaited : Awaited} {since began now : Nat}
    (waits : call.status = .waiting attempt awaited 1 since began) {turn : Turn}
    (next : attempt.upcoming? settings script call.patience began since awaited =
      some (now, turn)) (form : attempt.NextTurn awaited turn) :
    OnBeat settings script quiet { call with status := turn.rest.status ⟨now, 0, 1⟩ began }
      (journal ++ Beat.entries quiet
        ⟨now, (script.cue awaited.stage).linesAt since now, turn⟩) where
  first later ahead present moment start waitsOn := by
    cases rest : turn.rest <;> simp_all [Rest.status]
  whole := by
    have begun := Rest.status_ne_notStarted turn.rest ⟨now, 0, 1⟩ began
    have whole := onBeat.whole
    rw [beats, waits] at whole
    simp only [Status.beats_upcoming ⟨now, 0, 1⟩ next form, journalOf_cons] at whole
    rw [List.append_assoc, ← whole, beats]
    split
    · next idle => exact absurd idle begun
    · rfl

end OnBeat

section Alone

variable {scripts : List Script} {quiet : Bool} {settings : Settings} {call : Call}
  {moment now done : Nat} {timeline : Timeline Unit Recorded Empty}

/-- Whoever is found among the calls is the call that is alone. -/
theorem alone_found (reached : (call.alone moment).Interleaves (scripted scripts quiet) settings
    timeline) {taker : Call} (found : timeline.calls[done]? = some taker) :
    done = 0 ∧ timeline.calls = [taker] := by
  obtain ⟨_, twin, only, _⟩ := alone_twin reached
  rw [only] at found ⊢
  cases done with
  | zero => exact ⟨rfl, congrArg ([·]) (Option.some.inj found)⟩
  | succ done => simp at found

/-- The only call of a timeline is the one that takes a turn. -/
theorem only_taken {backend : Backend Unit Recorded Empty} {now session began : Nat}
    {turn : Turn} {taker twin : Call}
    (calls : (timeline.takeTurn backend ⟨now, 0, session⟩ began turn taker).calls = [twin])
    (only : timeline.calls = [taker]) :
    twin = { taker with status := turn.rest.status ⟨now, 0, session⟩ began } := by
  rw [Timeline.takeTurn_calls, only] at calls
  exact (List.singleton_inj.mp calls).symm

/-- A call that is alone takes the turn that comes next, after the log lines of an answer. -/
theorem OnBeat.taken {script : Script} {journal : List (Entry Recorded)} {taker twin : Call}
    (onBeat : taker.OnBeat settings script quiet journal) {attempt : Attempt} {awaited : Awaited}
    {since began : Nat} (waits : taker.status = .waiting attempt awaited 1 since began)
    {turn : Turn} (next : attempt.upcoming? settings script taker.patience began since awaited =
      some (now, turn)) (form : attempt.NextTurn awaited turn)
    (calls : (timeline.takeTurn (scripted scripts quiet) ⟨now, 0, 1⟩ began turn taker).calls =
      [twin]) (only : timeline.calls = [taker])
    (heard : timeline.service.journal =
      journal ++ loggedAt ⟨now, 0, 1⟩ ((script.cue awaited.stage).linesAt since now)) :
    twin.OnBeat settings script quiet (timeline.takeTurn (scripted scripts quiet) ⟨now, 0, 1⟩
      began turn taker).service.journal := by
  obtain rfl := only_taken calls only
  rw [Timeline.takeTurn_service, scripted_performAll_journal, heard, List.append_assoc]
  exact onBeat.react waits next form

/-- Where nothing was journaled, no session was opened. -/
theorem unopened_of_blank {backend : Backend Unit Recorded Empty}
    {origin : Timeline Unit Recorded Empty} (fresh : origin.Fresh)
    (reached : origin.Interleaves backend settings timeline)
    (blank : timeline.service.journal = []) : timeline.service.opened = 0 := by
  have numbered := congrArg List.length (fresh.numbered reached)
  simpa [Service.deeds, blank, openings] using numbered.symm

/-- A call that is alone starts when it is to, and finds the flag free. -/
theorem alone_starts {taker twin : Call}
    (prior : (call.alone moment).Unfolds (scripted scripts quiet) settings now 0 timeline)
    (only : timeline.calls = [taker]) (idle : taker.status = .notStarted)
    (due : timeline.sequential = false → taker.delay ≤ now)
    (blank : timeline.service.journal = [])
    (calls : (timeline.takeTurn (scripted scripts quiet)
      ⟨now, 0, timeline.service.opened + 1⟩ now
      (taker.order.start timeline.service.busy) taker).calls = [twin]) :
    twin.OnBeat settings (scriptOf scripts 1) quiet
      (timeline.takeTurn (scripted scripts quiet) ⟨now, 0, timeline.service.opened + 1⟩ now
        (taker.order.start timeline.service.busy) taker).service.journal := by
  have fresh := call.alone_fresh moment
  obtain ⟨atOnce, _⟩ := alone_twin prior.interleaves
  have found : timeline.calls[0]? = some taker := by simp [only]
  have unopened := unopened_of_blank fresh prior.interleaves blank
  have free : timeline.service.busy = false := Bool.eq_false_iff.mpr fun busy => by
    simpa [only] using (fresh.claimed_reached prior.interleaves).others found idle busy
  have onTime : now = taker.delay :=
    Nat.le_antisymm (prior.starts_late atOnce found idle) (due atOnce)
  obtain rfl := only_taken calls only
  rw [Timeline.takeTurn_service, scripted_performAll_journal, blank, free, unopened]
  exact OnBeat.start onTime rfl

/-- A call that is alone with a script stays on its beat. -/
theorem alone_onBeat
    (reached : (call.alone moment).Unfolds (scripted scripts quiet) settings now done timeline)
    {twin : Call} (calls : timeline.calls = [twin]) :
    twin.OnBeat settings (scriptOf scripts 1) quiet timeline.service.journal := by
  have fresh := call.alone_fresh moment
  have obeys : ∀ journal, (call.alone moment).Obeys (scripted scripts quiet) settings
      (scriptOf scripts) journal := fun journal => scripted_obeys fresh journal
  have punctual : ∀ {now done timeline},
      (call.alone moment).Unfolds (scripted scripts quiet) settings now done timeline →
      timeline.IsPunctual (scripted scripts quiet) settings now :=
    fun reached => fresh.punctual (scripted_honest scripts quiet) (scripted_steady scripts quiet)
      reached
  induction reached generalizing twin with
  | origin now idle =>
      obtain rfl := List.singleton_inj.mp calls
      exact ⟨by simp, rfl⟩
  | @start now done timeline taker prior found idle due inductionHypothesis =>
      obtain ⟨rfl, only⟩ := alone_found prior.interleaves found
      exact alone_starts prior only idle due ((inductionHypothesis only).blank idle) calls
  | look prior found waits unheard inductionHypothesis =>
      rw [Timeline.look, scripted_poll_unheard unheard]
      exact inductionHypothesis calls
  | @answer now done timeline taker attempt awaited session since began response prior found waits
      heard inductionHypothesis =>
      obtain ⟨rfl, only⟩ := alone_found prior.interleaves found
      have onBeat := inductionHypothesis only
      obtain rfl := onBeat.first _ _ _ _ _ waits
      obtain ⟨due, rfl⟩ := (obeys _).answered prior found waits heard List.prefix_rfl
      exact onBeat.taken waits ((punctual prior found waits).upcoming_answered due)
        (Attempt.Reacts.answered _).nextTurn calls only (scripted_poll_due quiet due _)
  | @expire now done timeline taker attempt awaited session since began prior found waits unheard
      late inductionHypothesis =>
      obtain ⟨rfl, only⟩ := alone_found prior.interleaves found
      have onBeat := inductionHypothesis only
      obtain rfl := onBeat.first _ _ _ _ _ waits
      have expires : attempt.Reacts settings awaited (attempt.expire settings awaited) := .expired
      have early := (obeys _).unanswered (prior.look found waits unheard) found waits
        ⟨_, unheard, rfl⟩ expires.nextTurn rfl List.prefix_rfl
      refine onBeat.taken waits ((punctual prior found waits).upcoming_expired early late)
        expires.nextTurn calls only ?_
      rw [Cue.linesAt_early early, Timeline.look, scripted_poll_unheard unheard]
      exact (List.append_nil _).symm
  | @cancel now done timeline taker attempt awaited session since began patience prior found waits
      settled limited due inductionHypothesis =>
      obtain ⟨rfl, only⟩ := alone_found prior.interleaves found
      have onBeat := inductionHypothesis only
      obtain rfl := onBeat.first _ _ _ _ _ waits
      have cancels : attempt.Reacts settings awaited attempt.cancel := .cancelled
      obtain ⟨inTime, unheard⟩ := settled _ _ _ _ _ waits
      have early := (obeys _).unanswered prior found waits unheard cancels.nextTurn rfl
        List.prefix_rfl
      refine onBeat.taken waits
        ((punctual prior found waits).upcoming_cancelled early inTime limited due)
        cancels.nextTurn calls only ?_
      rw [Cue.linesAt_early early]
      exact (List.append_nil _).symm
  | pass prior found settled inductionHypothesis => exact inductionHypothesis calls
  | again prior inductionHypothesis => exact inductionHypothesis calls
  | receive prior signal inductionHypothesis => exact signal.elim
  | queue prior signals inductionHypothesis => exact inductionHypothesis calls
  | wake prior idle forward inductionHypothesis => exact inductionHypothesis calls

variable (scripts quiet settings call moment)

/-- The journal of a call that is alone with its script holds what its turns leave there, and
nothing else. -/
theorem alone_journal :
    ((call.alone moment).run (scripted scripts quiet) settings).service.journal =
      journalOf quiet
        (call.order.beats settings (scriptOf scripts 1) call.patience moment) := by
  obtain ⟨twin, now, calls, order, delay, patience, begun, finished, _, reached⟩ :=
    alone_drained scripts quiet settings call moment
  have onBeat := alone_onBeat reached calls
  have noMore : twin.beats settings (scriptOf scripts 1) = [] := by
    rcases finished with ends | ⟨attempt, awaited, session, since, began, waits, undue, unlimited,
      patient⟩
    · cases status : twin.status with
      | finished ending ended => rw [beats, status]; rfl
      | notStarted => exact absurd status begun
      | waiting => simp [isOver, status] at ends
    · obtain rfl := onBeat.first _ _ _ _ _ waits
      rw [beats, waits, patient]
      exact Status.beats_none (Attempt.upcoming_none undue unlimited)
  have whole := onBeat.whole
  rwa [noMore, order, delay, patience, journalOf_nil, List.append_nil] at whole

end Alone

end Call

end Storefront
