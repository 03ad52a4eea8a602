import Storefront.Proofs.Following
import Storefront.Proofs.Hearing
import Storefront.Proofs.Showing

/-!
# Callbacks are answers

A call whose answers arrive as callbacks does what it would do alone if a script answered its
session the same way at the same moments. `Attended` couples the switchboard with the journal:
whoever waits has the last request under its handle, and that is open until the first line of
the journal that the session hears. So a routed backend obeys the scripts that are observed on
it, and `Timeline.callbacks_answer` follows from the courses of calls.
-/

namespace Storefront

/-! What turns do to a switchboard and to a journal. -/

/-- What an action of a session does to the switchboard. -/
def Action.operation? (session : Nat) : Action → Option Operation
  | .ask question => some (.expect session question.kind)
  | .endSession => some (.forget session)
  | _ => none

theorem routed_act (quiet : Bool) (scene : Scene) (action : Action) (board : Switchboard) :
    ((routed quiet).act scene action board).2 =
      match action.operation? scene.session with
      | none => board
      | some operation => board.perform operation := by
  cases action <;> rfl

/-- An action under a handle leaves requests under others alone. -/
theorem Action.operation?_foreign (slot : Nat) {session : Nat} {request : Request}
    {action : Action} {operation : Operation} (does : action.operation? session = some operation)
    (foreign : request.handle ≠ session) :
    request.follow slot operation = request ∧
      ∀ kind, operation ≠ .expect request.handle kind := by
  cases action <;> simp only [operation?, Option.some.injEq, reduceCtorEq] at does <;>
    subst does <;> simp [Request.follow, foreign, Ne.symm foreign]

namespace Service

variable (quiet : Bool) (scene : Scene) (service : Service Switchboard Recorded)
  (actions : List Action)

theorem performAll_orderly (orderly : service.world.Orderly) :
    (service.performAll (routed quiet) scene actions).world.Orderly := by
  induction actions generalizing service with
  | nil => exact orderly
  | cons action rest inductionHypothesis =>
      apply inductionHypothesis _
      rw [perform_world, routed_act]
      split
      · exact orderly
      · exact orderly.perform _

/-- Who acts under one handle leaves the last request under another as it is. -/
theorem performAll_latest (orderly : service.world.Orderly) {slot : Nat} {request : Request}
    (foreign : request.handle ≠ scene.session) (latest : service.world.Latest slot request) :
    (service.performAll (routed quiet) scene actions).world.Latest slot request := by
  induction actions generalizing service with
  | nil => exact latest
  | cons action rest inductionHypothesis =>
      refine inductionHypothesis _ (performAll_orderly quiet scene service [action] orderly) ?_
      rw [perform_world, routed_act]
      split
      · exact latest
      · next operation does =>
        obtain ⟨same, unasked⟩ := Action.operation?_foreign slot does foreign
        exact same ▸ latest.perform orderly unasked

/-- What actions leave in the journal is heard by their own session only, and only if it leaves
its request. -/
theorem performAll_hears :
    ∃ new, (service.performAll (routed quiet) scene actions).journal = service.journal ++ new ∧
      (∀ session kind since, new.findSome? (Entry.hears? session kind since) =
        if scene.session = session ∧ actions.any Action.leaves = true then some .silence
        else none) ∧
      ∀ entry ∈ new, ∀ session stage, entry.asks session stage = true →
        ∃ question, .ask question ∈ actions := by
  induction actions generalizing service with
  | nil => exact ⟨[], by simp [performAll], by simp, by simp⟩
  | cons action rest inductionHypothesis =>
      obtain ⟨new, journal, hears, asks⟩ := inductionHypothesis
        (perform (routed quiet) scene service action)
      rw [performAll_cons, journal, perform_journal, List.append_assoc]
      refine ⟨_, rfl, fun session kind since => ?_, fun entry member session stage asked => ?_⟩
      · have unsaid : (((routed quiet).act scene action service.world).1.map fun event =>
            (⟨scene.now, some scene, .showed event⟩ : Entry Recorded)).findSome?
              (Entry.hears? session kind since) = none := by
          simp [List.findSome?_eq_none_iff]
        rw [List.cons_append, List.findSome?_cons, Entry.hears?_did, List.findSome?_append, unsaid,
          Option.none_or, hears, List.any_cons]
        by_cases own : scene.session = session <;> cases action.leaves <;> simp [own]
      · rw [List.cons_append, List.mem_cons, List.mem_append, List.mem_map] at member
        rcases member with rfl | ⟨event, _, rfl⟩ | member
        · cases action <;> simp [Entry.asks] at asked ⊢
        · simp [Entry.asks] at asked
        · obtain ⟨question, asks⟩ := asks entry member session stage asked
          exact ⟨question, List.mem_cons_of_mem _ asks⟩

theorem receive_world (now : Nat) (signal : Signal) :
    (service.receive (routed quiet) now signal).world = service.world.perform signal.operation :=
  routed_receive quiet signal service.world

theorem receive_orderly (now : Nat) (signal : Signal) (orderly : service.world.Orderly) :
    (service.receive (routed quiet) now signal).world.Orderly := by
  rw [receive_world]
  exact orderly.perform _

end Service

/-- A line that is a question is a deed. -/
theorem Entry.asks_deed {service : Service Switchboard Recorded} {entry : Entry Recorded}
    (member : entry ∈ service.journal) {session : Nat} {stage : Stage}
    (asks : entry.asks session stage = true) :
    ∃ deed ∈ service.deeds, deed.scene.session = session ∧
      ∃ question, deed.action = .ask question ∧ question.stage = stage := by
  obtain ⟨now, scene, happening⟩ := entry
  unfold Entry.asks at asks
  split at asks
  · next scene question present does =>
    simp only at present does
    subst present does
    simp only [Bool.and_eq_true, decide_eq_true_eq] at asks
    exact ⟨⟨scene, .ask question⟩, List.mem_filterMap.mpr ⟨_, member, rfl⟩, asks.1, question, rfl,
      asks.2⟩
  · simp at asks

/-- Where a waiting session stands with its request: nothing was heard since it asked and the
request is open, or the request was closed with what was heard first, just now and before the
call was advanced. -/
inductive Listens (now done index : Nat) (board : Switchboard) (session : Nat) (kind : Kind)
    (since : Nat) (later : List (Entry Recorded)) : Prop where
  | waiting {slot} (unheard : later.findSome? (Entry.hears? session kind since) = none)
      (latest : board.Latest slot ⟨session, kind, true, .empty⟩)
  | answered {slot mailbox cue} (early : done ≤ index)
      (heard : later.findSome? (Entry.hears? session kind since) = some cue)
      (due : cue.due since = some now) (told : mailbox.told channelClosed = cue.reply.read.1)
      (latest : board.Latest slot ⟨session, kind, false, mailbox⟩)

/-- A session asked at a stage, once, and listens since. -/
def Asked (now done index : Nat) (service : Service Switchboard Recorded) (session : Nat)
    (stage : Stage) (since : Nat) : Prop :=
  ∃ before question later, service.journal = before ++ question :: later ∧
    (∀ entry ∈ before, entry.asks session stage = false) ∧
    question.asks session stage = true ∧ question.now = since ∧
    Listens now done index service.world session stage.kind since later

section Asked

variable {now done index session since : Nat} {stage : Stage}
  {service next : Service Switchboard Recorded}

/-- What a session does not hear and what leaves its request alone changes nothing for it. -/
theorem Asked.spared (asked : Asked now done index service session stage since)
    {new : List (Entry Recorded)} (journal : next.journal = service.journal ++ new)
    (unheard : new.findSome? (Entry.hears? session stage.kind since) = none)
    (latest : ∀ {slot : Nat} {request : Request}, request.handle = session →
      service.world.Latest slot request → next.world.Latest slot request) :
    Asked now done index next session stage since := by
  obtain ⟨before, question, later, split, first, asks, same, listens⟩ := asked
  refine ⟨before, question, later ++ new, by simp [journal, split], first, asks, same, ?_⟩
  cases listens with
  | waiting silent last =>
      exact .waiting (by simp [List.findSome?_append, silent, unheard]) (latest rfl last)
  | answered early heard due told last =>
      exact .answered early (by simp [List.findSome?_append, heard]) due told (latest rfl last)

/-- A signal is heard by those whose requests it closes. -/
theorem Asked.receive (asked : Asked now 0 index service session stage since)
    (orderly : service.world.Orderly) (begun : since ≤ now) (quiet : Bool) (signal : Signal) :
    Asked now 0 index (service.receive (routed quiet) now signal) session stage since := by
  obtain ⟨before, question, later, split, first, asks, same, listens⟩ := asked
  let new := ((routed quiet).receive signal service.world).1.map fun event =>
    (⟨now, none, .showed event⟩ : Entry Recorded)
  have journal : (service.receive (routed quiet) now signal).journal =
      before ++ question :: (later ++ new) := by
    rw [← List.cons_append, ← List.append_assoc, ← split]
    rfl
  refine ⟨before, question, later ++ new, journal, first, asks, same, ?_⟩
  rw [Service.receive_world]
  cases listens with
  | waiting silent last =>
      have next := last.perform orderly fun kind => signal.operation_ne_expect session kind
      rcases signal.heard quiet service.world session stage.kind begun with
        ⟨unheard, open_⟩ | ⟨cue, mailbox, heard, due, told, closed⟩
      · rw [open_] at next
        exact .waiting (by rw [List.findSome?_append, silent, Option.none_or, unheard]) next
      · rw [closed] at next
        exact .answered (Nat.zero_le _)
          (by rw [List.findSome?_append, silent, Option.none_or, heard]) due told next
  | answered early heard due told last =>
      have next := last.perform orderly fun kind => signal.operation_ne_expect session kind
      rw [signal.follow_closed] at next
      exact .answered early (by simp [List.findSome?_append, heard]) due told next

/-- A turn of another session changes nothing. -/
theorem Asked.performAll (asked : Asked now done index service session stage since)
    (orderly : service.world.Orderly) (quiet : Bool) {scene : Scene}
    (foreign : session ≠ scene.session) (actions : List Action) :
    Asked now done index (service.performAll (routed quiet) scene actions) session stage since := by
  obtain ⟨new, journal, hears, _⟩ := Service.performAll_hears quiet scene service actions
  refine asked.spared journal (by simp [hears, Ne.symm foreign]) fun same latest => ?_
  refine Service.performAll_latest quiet scene service actions orderly ?_ latest
  rw [same]
  exact_mod_cast foreign

/-- Looking for an answer changes nothing for another session. -/
theorem Asked.poll (asked : Asked now done index service session stage since)
    (orderly : service.world.Orderly) (quiet : Bool) {scene : Scene}
    (foreign : session ≠ scene.session) (other : Stage) (moment : Nat) :
    Asked now done index (service.poll (routed quiet) scene other moment).2 session stage
      since := by
  have nothing : (service.poll (routed quiet) scene other moment).2.journal =
      service.journal ++ [] := by simp [Service.poll, Service.note, routed]
  have world : (service.poll (routed quiet) scene other moment).2.world =
      (service.world.answer scene.session channelClosed).2 := rfl
  apply asked.spared nothing (by simp)
  intro slot request same latest
  rw [world]
  rcases service.world.answer_board scene.session channelClosed with
    untouched | ⟨place, looked, found, handle, took⟩
  · rw [untouched]
    exact latest
  · have elsewhere : place ≠ slot := by
      rintro rfl
      rw [latest.found, Option.some.injEq] at found
      rw [← found, same] at handle
      exact foreign (by exact_mod_cast handle)
    have next := latest.perform orderly (by simp : ∀ kind, Operation.poll place ≠ _)
    rw [took]
    simpa [Request.follow, elsewhere] using next

/-- Whoever asks listens. -/
theorem Asked.ask {scene : Scene} (quiet : Bool) {actions : List Action} {question : Question}
    (unasked : ∀ entry ∈ service.journal, entry.asks scene.session question.stage = false)
    (once : ∀ other, .ask other ∉ actions) :
    Asked scene.now done index
      (service.performAll (routed quiet) scene (actions ++ [.ask question])) scene.session
      question.stage scene.now := by
  obtain ⟨new, journal, _, asks⟩ := Service.performAll_hears quiet scene service actions
  have more : (service.performAll (routed quiet) scene (actions ++ [.ask question])).journal =
      (service.journal ++ new) ++ ⟨scene.now, some scene, .did (.ask question)⟩ ::
        [⟨scene.now, some scene, .showed (.ofQuestion scene.session question)⟩] := by
    rw [← journal, Service.performAll_append]
    exact Service.perform_journal (routed quiet) scene _ (.ask question)
  have world : (service.performAll (routed quiet) scene (actions ++ [.ask question])).world =
      (service.performAll (routed quiet) scene actions).world.expect scene.session
        question.kind := by
    rw [Service.performAll_append]
    rfl
  refine ⟨_, _, _, more, fun entry member => ?_, by simp [Entry.asks], rfl, ?_⟩
  · rcases List.mem_append.mp member with before | during
    · exact unasked entry before
    · apply Bool.eq_false_iff.mpr
      intro asked
      obtain ⟨other, asking⟩ := asks entry during _ _ asked
      exact once other asking
  · rw [world, question.stage_kind]
    exact .waiting (by simp) (Switchboard.latest_expect ..)

/-- A call that is advanced listens when the next moment comes to it again. -/
theorem Asked.again (asked : Asked now done index service session stage since) :
    Asked now 0 index service session stage since := by
  obtain ⟨before, question, later, split, first, asks, same, listens⟩ := asked
  refine ⟨before, question, later, split, first, asks, same, ?_⟩
  cases listens with
  | waiting silent last => exact .waiting silent last
  | answered early heard due told last => exact .answered (Nat.zero_le _) heard due told last

/-- Another call is done with the moment. -/
theorem Asked.pass (asked : Asked now done index service session stage since)
    (distinct : index ≠ done) : Asked now (done + 1) index service session stage since := by
  obtain ⟨before, question, later, split, first, asks, same, listens⟩ := asked
  refine ⟨before, question, later, split, first, asks, same, ?_⟩
  cases listens with
  | waiting silent last => exact .waiting silent last
  | answered early heard due told last => exact .answered (by omega) heard due told last

/-- A call that is done with the moment and still waits was not answered, whatever comes. -/
theorem Asked.past (asked : Asked now done index service session stage since)
    (past : index < done) (later next : Nat) :
    Asked later next index service session stage since := by
  obtain ⟨before, question, after, split, first, asks, same, listens⟩ := asked
  refine ⟨before, question, after, split, first, asks, same, ?_⟩
  cases listens with
  | waiting silent last => exact .waiting silent last
  | answered early heard due told last => omega

/-- A session that looked and found nothing was not answered, whatever comes. -/
theorem Asked.unheard (asked : Asked now done index service session stage since) {quiet : Bool}
    {scene : Scene} {other : Stage} {moment : Nat} (same : scene.session = session)
    (unheard : service.Unheard (routed quiet) scene other moment) (later next : Nat) :
    Asked later next index service session stage since := by
  obtain ⟨before, question, after, split, first, asks, asking, listens⟩ := asked
  refine ⟨before, question, after, split, first, asks, asking, ?_⟩
  cases listens with
  | waiting silent last => exact .waiting silent last
  | answered early heard due told last =>
      obtain ⟨looking, nothing, rfl⟩ := unheard
      subst same
      have untouched : (looking.world.answer scene.session channelClosed).2 = looking.world :=
        Switchboard.answer_none nothing
      have last : (looking.world.answer scene.session channelClosed).2.Latest _ _ := last
      rw [untouched] at last
      have found := Switchboard.answer_closed last channelClosed
      have nothing : (looking.world.answer scene.session channelClosed).1 = none := nothing
      simp [nothing] at found

/-- Until a session hears something, it observes what it will hear. -/
theorem Asked.observed_silent (asked : Asked now done index service session stage since)
    (past : index < done) (more : List (Entry Recorded)) :
    observedCue session (service.journal ++ more) stage =
      heardIn session stage.kind since more := by
  obtain ⟨before, question, later, split, first, asks, rfl, listens⟩ := asked
  cases listens with
  | waiting silent last =>
      rw [split, List.append_assoc, List.cons_append, observedCue_eq first asks,
        heardIn_unheard silent]
  | answered early => omega

/-- A session that finds an answer observes it, now. -/
theorem Asked.observed_heard (asked : Asked now done index service session stage since)
    {response : Billing.Response}
    (found : (service.world.answer session channelClosed).1 = some response)
    (more : List (Entry Recorded)) :
    (observedCue session (service.journal ++ more) stage).due since = some now ∧
      (observedCue session (service.journal ++ more) stage).reply.read.1 = response := by
  obtain ⟨before, question, later, split, first, asks, rfl, listens⟩ := asked
  cases listens with
  | waiting silent last => simp [Switchboard.answer_waiting last] at found
  | answered early heard due told last =>
      rw [Switchboard.answer_closed last, Option.some.injEq] at found
      rw [split, List.append_assoc, List.cons_append, observedCue_eq first asks,
        heardIn_heard heard]
      exact ⟨due, told.symm.trans found⟩

end Asked

namespace Timeline

variable {quiet : Bool} {settings : Settings}
  {origin timeline : Timeline Switchboard Recorded Signal} {now done : Nat}

/-- Nobody asked in a session that is not open yet. -/
theorem Fresh.start_unasked (fresh : origin.Fresh)
    (reached : origin.Interleaves (routed quiet) settings timeline) (stage : Stage) :
    ∀ entry ∈ timeline.service.journal,
      entry.asks (timeline.service.opened + 1) stage = false := by
  intro entry member
  apply Bool.eq_false_iff.mpr
  intro asks
  obtain ⟨deed, inDeeds, session, question, asking, _⟩ := Entry.asks_deed member asks
  obtain ⟨moment, opened⟩ := fresh.owned reached inDeeds (by simp [asking])
  have known := fresh.opened_le reached opened
  simp only [session] at known
  omega

/-- Nobody asked at a stage that is still ahead. -/
theorem Fresh.react_unasked (fresh : origin.Fresh)
    (reached : origin.Interleaves (routed quiet) settings timeline) {index : Nat} {call : Call}
    (found : timeline.calls[index]? = some call) {attempt : Attempt} {awaited ahead : Awaited}
    {session since began : Nat}
    (waits : call.status = .waiting attempt awaited session since began)
    (fewer : ahead.stagesLeft < awaited.stagesLeft) :
    ∀ entry ∈ timeline.service.journal, entry.asks session ahead.stage = false := by
  intro entry member
  apply Bool.eq_false_iff.mpr
  intro asks
  obtain ⟨deed, inDeeds, same, question, asking, stage⟩ := Entry.asks_deed member asks
  obtain ⟨moment, opened⟩ := fresh.waiting_opened reached found waits
  have owner := fresh.user reached opened inDeeds (by simp [asking]) same
  have before := (fresh.story reached found).asked waits
    (mem_deedsOf.mpr ⟨inDeeds, owner⟩) asking
  rw [stage, ahead.stage_left] at before
  omega

/-- Requests are in order, and everybody who waits listens. -/
structure Attended (now done : Nat) (timeline : Timeline Switchboard Recorded Signal) : Prop where
  orderly : timeline.service.world.Orderly
  asked : ∀ (index : Nat) (call : Call) (attempt : Attempt) (awaited : Awaited)
    (session since began : Nat), timeline.calls[index]? = some call →
    call.status = .waiting attempt awaited session since began →
    Asked now done index timeline.service session awaited.stage since

/-- A turn keeps everybody listening, if the call that takes it goes on in a session of its own
with a question it did not ask before. -/
theorem Attended.takeTurn (scene : Scene) {start : Nat} {turn : Turn} {taker : Call}
    (orderly : timeline.service.world.Orderly)
    (others : ∀ (index : Nat) (call : Call) (attempt : Attempt) (awaited : Awaited)
      (session since began : Nat), index ≠ scene.call → timeline.calls[index]? = some call →
      call.status = .waiting attempt awaited session since began →
      session ≠ scene.session ∧
        Asked scene.now done index timeline.service session awaited.stage since)
    (own : ∀ later ahead, turn.rest = .waiting later ahead →
      (∃ actions question, turn.Asks ahead actions question) ∧
        ∀ entry ∈ timeline.service.journal, entry.asks scene.session ahead.stage = false) :
    (timeline.takeTurn (routed quiet) scene start turn taker).Attended scene.now done where
  orderly := by
    rw [takeTurn_service]
    exact Service.performAll_orderly quiet scene _ _ orderly
  asked index call attempt awaited session since began found waits := by
    rw [takeTurn_service]
    rcases takeTurn_found found with ⟨rfl, rfl⟩ | ⟨distinct, before⟩
    · cases rest : turn.rest with
      | waiting later ahead =>
          obtain ⟨⟨actions, question, does⟩, unasked⟩ := own later ahead rest
          simp only [rest, Rest.status, Status.waiting.injEq] at waits
          obtain ⟨rfl, rfl, rfl, rfl, rfl⟩ := waits
          rw [does.asks, ← does.stage]
          exact Asked.ask quiet (does.stage ▸ unasked) does.once
      | finished ending => simp [rest, Rest.status] at waits
    · obtain ⟨foreign, asked⟩ := others _ _ _ _ _ _ _ distinct before waits
      exact asked.performAll orderly quiet foreign turn.actions

theorem look_unheard {scene : Scene} {stage : Stage} {since : Nat}
    (unheard : timeline.heard (routed quiet) scene stage since = none) :
    timeline.look (routed quiet) scene stage since = timeline := by
  have untouched : (timeline.service.world.answer scene.session channelClosed).2 =
      timeline.service.world := Switchboard.answer_none unheard
  have same : (timeline.service.poll (routed quiet) scene stage since).2 = timeline.service := by
    simp [Service.poll, Service.note, routed, untouched]
  rw [Timeline.look, same]

/-- A look keeps the requests in order. -/
theorem look_orderly (orderly : timeline.service.world.Orderly) (scene : Scene) (stage : Stage)
    (since : Nat) : (timeline.look (routed quiet) scene stage since).service.world.Orderly := by
  have world : (timeline.look (routed quiet) scene stage since).service.world =
      (timeline.service.world.answer scene.session channelClosed).2 := rfl
  rw [world]
  rcases timeline.service.world.answer_board scene.session channelClosed with
    untouched | ⟨slot, request, _, _, took⟩
  · rw [untouched]
    exact orderly
  · rw [took]
    exact orderly.perform _

section Turns

variable (attended : timeline.Attended now done) (fresh : origin.Fresh)
  (prior : origin.Unfolds (routed quiet) settings now done timeline) {taker : Call}
include attended fresh prior

/-- A call that starts asks first in a session of its own. -/
theorem Attended.start :
    (timeline.takeTurn (routed quiet) ⟨now, done, timeline.service.opened + 1⟩ now
      (taker.order.start timeline.service.busy) taker).Attended now done := by
  refine takeTurn ⟨now, done, _⟩ attended.orderly ?others ?own
  case others =>
    intro index call attempt awaited session since began distinct found waits
    obtain ⟨moment, opened⟩ := fresh.waiting_opened prior.interleaves found waits
    have known := fresh.opened_le prior.interleaves opened
    simp only at known
    exact ⟨by simp only; omega, attended.asked _ _ _ _ _ _ _ found waits⟩
  case own =>
    intro later ahead rest
    exact ⟨(taker.order.start_firstTurn _).asks_last rest,
      fresh.start_unasked prior.interleaves ahead.stage⟩

/-- A call that goes on asks at the next stage, if at all. -/
theorem Attended.react (isThere : timeline.calls[done]? = some taker) {attempt : Attempt}
    {awaited : Awaited} {session since began : Nat}
    (waits : taker.status = .waiting attempt awaited session since began) {turn : Turn}
    (form : attempt.NextTurn awaited turn) :
    (timeline.takeTurn (routed quiet) ⟨now, done, session⟩ began turn taker).Attended now done ∧
      ((timeline.look (routed quiet) ⟨now, done, session⟩ awaited.stage since).takeTurn
        (routed quiet) ⟨now, done, session⟩ began turn taker).Attended now done := by
  have foreign : ∀ (index : Nat) (call : Call) (attempt : Attempt) (awaited : Awaited)
      (other since began : Nat), index ≠ done → timeline.calls[index]? = some call →
      call.status = .waiting attempt awaited other since began → other ≠ session := by
    rintro index call attempt awaited other since began distinct found waited rfl
    exact distinct (fresh.waiting_alone prior.interleaves found waited isThere waits)
  have own : ∀ later ahead, turn.rest = .waiting later ahead →
      (∃ actions question, turn.Asks ahead actions question) ∧
        ∀ entry ∈ timeline.service.journal, entry.asks session ahead.stage = false := by
    intro later ahead rest
    obtain ⟨fewer, asks⟩ := form.asks_last rest
    exact ⟨asks, fresh.react_unasked prior.interleaves isThere waits fewer⟩
  constructor
  · refine takeTurn ⟨now, done, session⟩ attended.orderly ?_ own
    intro index call _ _ _ _ _ distinct found waited
    exact ⟨foreign _ _ _ _ _ _ _ distinct found waited,
      attended.asked _ _ _ _ _ _ _ found waited⟩
  · have silent : (timeline.look (routed quiet) ⟨now, done, session⟩ awaited.stage
        since).service.journal = timeline.service.journal := by
      simp [Timeline.look, Service.poll, Service.note, routed]
    refine takeTurn ⟨now, done, session⟩ (look_orderly attended.orderly _ _ _) ?_
      (silent ▸ own)
    intro index call _ _ _ _ _ distinct found waited
    have foreign := foreign _ _ _ _ _ _ _ distinct found waited
    exact ⟨foreign, (attended.asked _ _ _ _ _ _ _ found waited).poll attended.orderly quiet
      foreign awaited.stage since⟩

end Turns

/-- A call that is done with the moment was not answered in it. -/
theorem Attended.pass (attended : timeline.Attended now done) {call : Call}
    (found : timeline.calls[done]? = some call)
    (settled : call.Settled (routed quiet) settings now done timeline.service) :
    timeline.Attended now (done + 1) := by
  refine ⟨attended.orderly, fun index other attempt awaited session since began isThere waits => ?_⟩
  have asked := attended.asked _ _ _ _ _ _ _ isThere waits
  by_cases same : index = done
  · subst same
    rw [found, Option.some.injEq] at isThere
    subst isThere
    exact asked.unheard rfl (settled _ _ _ _ _ waits).2 _ _
  · exact asked.pass same

/-- Everybody who waits listens, all the time. -/
theorem Fresh.attended (fresh : origin.Fresh) (blank : origin.service.world = {})
    (reached : origin.Unfolds (routed quiet) settings now done timeline) :
    timeline.Attended now done := by
  induction reached with
  | origin now idle =>
      refine ⟨blank ▸ List.Pairwise.nil, fun index call _ _ _ _ _ found waits => ?_⟩
      rw [fresh.idle call (List.mem_of_getElem? found)] at waits
      simp at waits
  | start prior found idle due inductionHypothesis =>
      exact inductionHypothesis.start fresh prior
  | look prior found waits unheard inductionHypothesis =>
      exact (look_unheard unheard).symm ▸ inductionHypothesis
  | answer prior found waits heard inductionHypothesis =>
      exact (inductionHypothesis.react fresh prior found waits
        (Attempt.Reacts.answered _).nextTurn).2
  | @expire now done timeline taker attempt awaited session since start prior found waits unheard
      late inductionHypothesis =>
      have expires : attempt.Reacts settings awaited (attempt.expire settings awaited) := .expired
      exact (inductionHypothesis.react fresh prior found waits expires.nextTurn).2
  | @cancel now done timeline taker attempt awaited session since start _ prior found waits settled
      limited due inductionHypothesis =>
      have cancels : attempt.Reacts settings awaited attempt.cancel := .cancelled
      exact (inductionHypothesis.react fresh prior found waits cancels.nextTurn).1
  | pass prior found settled inductionHypothesis => exact inductionHypothesis.pass found settled
  | again prior inductionHypothesis =>
      exact ⟨inductionHypothesis.orderly, fun _ _ _ _ _ _ _ found waits =>
        (inductionHypothesis.asked _ _ _ _ _ _ _ found waits).again⟩
  | receive prior signal inductionHypothesis =>
      refine ⟨?_, fun _ _ _ _ _ _ _ found waits => ?_⟩
      · exact Service.receive_orderly quiet _ _ _ inductionHypothesis.orderly
      · exact (inductionHypothesis.asked _ _ _ _ _ _ _ found waits).receive
          inductionHypothesis.orderly
          (fresh.punctual (routed_honest quiet) (routed_steady quiet) prior found waits).begun
          quiet signal
  | queue prior signals inductionHypothesis =>
      exact ⟨inductionHypothesis.orderly, inductionHypothesis.asked⟩
  | wake prior idle forward inductionHypothesis =>
      refine ⟨inductionHypothesis.orderly, fun _ _ _ _ _ _ _ found waits => ?_⟩
      exact (inductionHypothesis.asked _ _ _ _ _ _ _ found waits).past
        (List.getElem?_eq_some_iff.mp found).1 _ _

/-- A turn that ends its call leaves the request. -/
theorem leaves_of_finished {attempt : Attempt} {awaited : Awaited} {turn : Turn} {ending : Ending}
    (form : attempt.NextTurn awaited turn) (ends : turn.rest = .finished ending) :
    turn.actions.any Action.leaves = true := by
  cases form with
  | asks => simp at ends
  | succeeds | fails | cancelled => simp [Attempt.hangUp, Action.leaves]

/-- Callbacks answer sessions the way their scripts do that were observed up to any later time. -/
theorem Fresh.routed_obeys (fresh : origin.Fresh) (blank : origin.service.world = {})
    (journal : List (Entry Recorded)) :
    origin.Obeys (routed quiet) settings (fun session => observed session journal) journal where
  answered {now done timeline call attempt awaited session since began response} reached found
      waits heard within := by
    obtain ⟨more, rfl⟩ := within
    rw [observed_cue]
    exact ((fresh.attended blank reached).asked _ _ _ _ _ _ _ found waits).observed_heard heard more
  unanswered {now done timeline call attempt awaited session since began turn ending} reached found
      waits unheard form ends within moment due := by
    obtain ⟨more, rfl⟩ := within
    obtain ⟨new, journal, hears, _⟩ := Service.performAll_hears quiet ⟨now, done, session⟩
      timeline.service turn.actions
    have asked : Asked now (done + 1) done timeline.service session awaited.stage since :=
      ((fresh.attended blank reached).asked _ _ _ _ _ _ _ found waits).unheard rfl unheard _ _
    have silence : new.findSome? (Entry.hears? session awaited.stage.kind since) =
        some .silence := by
      rw [hears, if_pos ⟨rfl, leaves_of_finished form ends⟩]
    rw [observed_cue, takeTurn_service, journal, List.append_assoc,
      asked.observed_silent (Nat.lt_succ_self _), heardIn_heard silence, Cue.silence_due] at due
    simp at due

/-- In a run whose answers arrive as callbacks, a call that opened a session does all of the
course that was observed, and no more. -/
theorem Fresh.routed_course (fresh : origin.Fresh) (blank : origin.service.world = {})
    {scene : Scene} {call : Call}
    (found : (origin.run (routed quiet) settings).calls[scene.call]? = some call)
    (opened : ⟨scene, .openSession⟩ ∈ (origin.run (routed quiet) settings).service.deeds) :
    timed scene.call (origin.run (routed quiet) settings).service.deeds =
      call.order.course settings
        (observed scene.session (origin.run (routed quiet) settings).service.journal)
        call.patience scene.now := by
  refine fresh.run_course (routed_honest quiet) (routed_steady quiet)
    (fresh.routed_obeys blank _) found opened fun reached waits _ => ?_
  have asked := (fresh.attended blank reached).asked _ _ _ _ _ _ _ found waits
  have silent := asked.observed_silent (List.getElem?_eq_some_iff.mp found).1 []
  rw [List.append_nil] at silent
  rw [observed_cue, silent]
  rfl

/-- What a call of one run has in common with the only call of another: what it did, what was
shown of it under the number of its session, how it ended, and when all of that was. -/
structure Mirrors (index session : Nat) (final : Timeline Switchboard Recorded Signal)
    (lone : Timeline Unit Recorded Empty) : Prop where
  deeds : timed index final.service.deeds = timed 0 lone.service.deeds
  shown : shownBy index final.service.journal =
    (shownBy 0 lone.service.journal).map fun event => (event.1, event.2.numbered session)
  ended : ∀ ending moment,
    (∃ call, final.calls[index]? = some call ∧ call.status = .finished ending moment) ↔
      ∃ twin, lone.calls[0]? = some twin ∧ twin.status = .finished ending moment

/-- Callbacks are answers. In a run whose answers arrive as callbacks, with any other calls and
whatever arrives on whatever handle, each call that opened a session does what it does alone,
started at the same moment, if a script answers its stages as the journal tells. -/
theorem callbacks_answer (quiet : Bool) (settings : Settings)
    {origin : Timeline Switchboard Recorded Signal} (fresh : origin.Fresh)
    (blank : origin.service.world = {}) :
    (origin.signals.Pairwise (fun earlier later => earlier.1 ≤ later.1) →
        arrivals (origin.run (routed quiet) settings).service.journal = origin.signals) ∧
      ∀ (scene : Scene) (call : Call),
        (origin.run (routed quiet) settings).calls[scene.call]? = some call →
        ⟨scene, .openSession⟩ ∈ (origin.run (routed quiet) settings).service.deeds →
        Mirrors scene.call scene.session (origin.run (routed quiet) settings)
          ((call.alone scene.now).run (scripted
            [observed scene.session (origin.run (routed quiet) settings).service.journal]
            quiet) settings) := by
  refine ⟨fresh.arrivals_run, fun scene call found opened => ?_⟩
  let script := observed scene.session (origin.run (routed quiet) settings).service.journal
  have reached := run_interleaves (routed quiet) settings origin
  have reachedAlone := run_interleaves (scripted [script] quiet) settings (call.alone scene.now)
  have freshAlone := call.alone_fresh scene.now
  obtain ⟨twin, _, calls, _⟩ := call.alone_run script quiet settings scene.now
  have foundAlone : ((call.alone scene.now).run (scripted [script] quiet) settings).calls[0]? =
      some twin := by simp [calls]
  have opens := (fresh.story reached found).opens (mem_deedsOf.mpr ⟨opened, rfl⟩)
  have deeds : timed scene.call (origin.run (routed quiet) settings).service.deeds =
      timed 0 ((call.alone scene.now).run (scripted [script] quiet) settings).service.deeds :=
    (fresh.routed_course blank found opened).trans
      (call.alone_course script quiet settings scene.now opens).symm
  refine ⟨deeds, ?_, fun ending moment => ?_⟩
  · rw [← shown_session fresh reached (routed_records quiet) found opened,
      shown_timed fresh reached (routed_records quiet), deeds,
      shown_timed freshAlone reachedAlone (scripted_records _ quiet)]
  · rw [ended_timed fresh reached found, ended_timed freshAlone reachedAlone foundAlone, deeds]

/-- Three calls at once. A callback answers the wrong question, one comes too late for a call
that is given up on, and a connection is lost. -/
def crossed : Timeline Switchboard Recorded Signal where
  calls :=
    let premium : Catalog.Canonical := ⟨[⟨false, "subs", "premium"⟩]⟩
    [{ order := ⟨.lookup, .catalog premium, "activity"⟩ },
      { order := ⟨.purchase, .catalog premium, "activity"⟩, delay := 1 },
      { order := ⟨.lookup, .catalog premium, "activity"⟩, patience := some 4 }]
  signals :=
    [(2, .callback 3 (.setupFinished {})), (2, .callback 3 (.launched {})),
      (3, .callback 1 .disconnected), (4, .callback 2 (.setupFinished {})),
      (5, .callback 3 (.skuDetails {}))]
  service := { world := {} }

/-- The purchase does what it does alone, and ends at the same moment. -/
theorem crossed_answered :
    ∃ call, (crossed.run (routed true) {}).calls[1]? = some call ∧
      call.status = .finished (.succeeded .notFound) 5 ∧
      Mirrors 1 3 (crossed.run (routed true) {})
        ((call.alone 1).run (scripted
          [observed 3 (crossed.run (routed true) {}).service.journal] true) {}) ∧
      arrivals (crossed.run (routed true) {}).service.journal = crossed.signals := by
  have fresh : crossed.Fresh := ⟨by decide, rfl, rfl, rfl⟩
  obtain ⟨arrived, mirrored⟩ := callbacks_answer true {} fresh rfl
  obtain ⟨call, found, ends⟩ : ∃ call, (crossed.run (routed true) {}).calls[1]? = some call ∧
      call.status = .finished (.succeeded .notFound) 5 :=
    Option.map_eq_some_iff.mp (by decide +kernel :
      (crossed.run (routed true) {}).calls[1]?.map (·.status) =
        some (.finished (.succeeded .notFound) 5))
  exact ⟨call, found, ends, mirrored ⟨1, 1, 3⟩ call found (by decide +kernel),
    arrived (by decide)⟩

end Timeline

end Storefront
