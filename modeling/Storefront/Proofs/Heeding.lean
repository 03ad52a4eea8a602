import Storefront.Proofs.Conversing
import Storefront.Proofs.Posting
import Storefront.Proofs.Release

/-!
# Answers that are held

An answer that arrived is held for the session that waits for it until the call of the session has
its turn. `App.Reaches.pending_or_heeded` is the result for every run: the turn that a call takes
next, whatever all the others do before, is the one for that answer.
-/

namespace Storefront.Host

/-- A call waits for an answer, and the answer is held for it. -/
structure Served (index : Nat) (call : Call) (attempt : Attempt) (awaited : Awaited)
    (session slot : Nat) (kind : Kind) (response : Billing.Response) (calls : List Call)
    (service : Service Bridge Event) : Prop where
  found : calls[index]? = some call
  waits : ∃ since began, call.status = .waiting attempt awaited session since began
  holds : service.world.board.Holds slot session kind (.holding response)

/-- A call whose answer is held, whose turn is to come, and that has done nothing since. -/
structure Pending (place index : Nat) (call : Call) (attempt : Attempt) (awaited : Awaited)
    (session slot : Nat) (kind : Kind) (response : Billing.Response) (done : List Deed)
    (calls : List Call) (service : Service Bridge Event) : Prop
    extends Served index call attempt awaited session slot kind response calls service where
  before : place ≤ index
  still : deedsOf index service.deeds = done

/-- A call took the turn for its answer, on top of what it had done, and whatever happened since. -/
def Heeded (detached : Bool) (settings : Settings) (index : Nat) (call : Call) (attempt : Attempt)
    (awaited : Awaited) (session : Nat) (response : Billing.Response) (done : List Deed)
    (timeline : Timeline Bridge Event Arrival) : Prop :=
  ∃ (before : Timeline Bridge Event Arrival) (now began : Nat),
    before.calls[index]? = some call ∧ deedsOf index before.service.deeds = done ∧
      (before.takeTurn (hosted detached) ⟨now, index, session⟩ began
        (attempt.resume settings awaited response) call).Interleaves (hosted detached) settings
        timeline

section Run

variable {settings : Settings} {detached : Bool} {place index : Nat} {call : Call}
  {attempt : Attempt} {awaited : Awaited} {session slot : Nat} {kind : Kind}
  {response : Billing.Response} {done : List Deed} {timeline next : Timeline Bridge Event Arrival}

/-- Whoever looks for an answer that is held finds it. -/
theorem Served.heard {calls : List Call} {service : Service Bridge Event}
    (served : Served index call attempt awaited session slot kind response calls service)
    (detached : Bool) (scene : Scene) (own : scene.session = session) (stage : Stage)
    (since : Nat) : (service.poll (hosted detached) scene stage since).1 = some response := by
  subst own
  exact Switchboard.answer_closed served.holds.latest _

/-- An answer that is held is not overlooked. -/
theorem Served.unsettled {calls : List Call} {service : Service Bridge Event}
    (served : Served index call attempt awaited session slot kind response calls service)
    (now : Nat) : ¬ call.Settled (hosted detached) settings now index service := by
  intro settled
  obtain ⟨since, began, waits⟩ := served.waits
  obtain ⟨_, before, unheard, same⟩ := settled _ _ _ _ _ waits
  have kept : service.world.board = before.world.board := by
    rw [same]
    exact Switchboard.answer_none unheard
  have heard : (service.world.board.answer session (neverAnswered awaited.stage)).1 =
      some response := served.heard detached ⟨now, index, session⟩ rfl awaited.stage since
  change (before.world.board.answer session _).1 = none at unheard
  rw [kept, unheard] at heard
  cases heard

/-- Others do nothing in the name of the call. -/
theorem deedsOf_turn {scene : Scene} {began : Nat} {turn : Turn} {taker : Call}
    (other : scene.call ≠ index) :
    deedsOf index (timeline.takeTurn (hosted detached) scene began turn taker).service.deeds =
      deedsOf index timeline.service.deeds := by
  rw [Timeline.takeTurn_deeds, deedsOf_append, Turn.deedsOf_deeds, if_neg (Ne.symm other),
    List.append_nil]

/-- Turns of others, in other sessions, leave the answer where it is. -/
theorem Pending.turn {scene : Scene} {began : Nat} {turn : Turn} {taker : Call}
    (pending : Pending place index call attempt awaited session slot kind response done
      timeline.calls timeline.service)
    (other : scene.call ≠ index) (foreign : scene.session ≠ session) :
    Pending place index call attempt awaited session slot kind response done
      (timeline.takeTurn (hosted detached) scene began turn taker).calls
      (timeline.takeTurn (hosted detached) scene began turn taker).service where
  found := by
    rw [Timeline.takeTurn_calls, List.getElem?_set_ne other]
    exact pending.found
  waits := pending.waits
  holds := by
    rw [Timeline.takeTurn_service]
    exact holds_actions pending.holds foreign turn.actions
  before := pending.before
  still := (deedsOf_turn other).trans pending.still

/-- Looks for other answers, and whatever arrives, leave an answer where it is. -/
theorem Pending.look {scene : Scene} (stage : Stage) (since : Nat)
    (pending : Pending place index call attempt awaited session slot kind response done
      timeline.calls timeline.service)
    (foreign : scene.session ≠ session) :
    Pending place index call attempt awaited session slot kind response done timeline.calls
      (timeline.look (hosted detached) scene stage since).service where
  found := pending.found
  waits := pending.waits
  holds := holds_answer pending.holds foreign (neverAnswered stage)
  before := pending.before
  still := (congrArg _ (Service.poll_deeds (hosted detached) scene stage since _)).trans
    pending.still

theorem Pending.receive (detached : Bool) (now : Nat) (arrival : Arrival)
    (pending : Pending place index call attempt awaited session slot kind response done
      timeline.calls timeline.service) :
    Pending place index call attempt awaited session slot kind response done timeline.calls
      (timeline.service.receive (hosted detached) now arrival) where
  found := pending.found
  waits := pending.waits
  holds := by
    obtain ⟨callback, same⟩ := receive_board detached now arrival
    rw [same]
    exact pending.holds.perform (by simp) (by simp) (by simp)
  before := pending.before
  still := (congrArg _ (Service.receive_deeds (hosted detached) now _ arrival)).trans
    pending.still

/-- Whoever took the turn for its answer took it for good. -/
theorem Heeded.step
    (heeded : Heeded detached settings index call attempt awaited session response done timeline)
    (transition : timeline.Step (hosted detached) settings next) :
    Heeded detached settings index call attempt awaited session response done next := by
  obtain ⟨before, now, began, found, still, further⟩ := heeded
  exact ⟨before, now, began, found, still, further.step transition⟩

/-- What a call did for its answer is among all that it does. -/
theorem Heeded.did
    (heeded : Heeded detached settings index call attempt awaited session response done timeline) :
    ∃ moment more, deedsOf index timeline.service.deeds = done ++
      (attempt.resume settings awaited response).deeds ⟨moment, index, session⟩ ++ more := by
  obtain ⟨before, now, began, found, rfl, further⟩ := heeded
  obtain ⟨more, same⟩ := (App.Reaches.of_interleaves further).deeds
  refine ⟨now, deedsOf index more, ?_⟩
  rw [← same, deedsOf_append, Timeline.takeTurn_deeds, deedsOf_append, Turn.deedsOf_deeds,
    if_pos rfl]

/-- A session that an app is waiting in is nobody else's, nor one that is still to be opened. -/
theorem App.Reaches.apart {origin app : App} (reached : origin.Reaches detached settings app)
    (isNew : origin.IsNew)
    (served : Served index call attempt awaited session slot kind response app.calls app.service) :
    session ≤ app.service.opened ∧
      ∀ {other taker attempting ahead present since began}, app.calls[other]? = some taker →
        taker.status = .waiting attempting ahead present since began →
        other = index ∧ taker = call ∧ attempting = attempt ∧ ahead = awaited ∧
            present = session ∨
          other ≠ index ∧ present ≠ session := by
  obtain ⟨since, began, waits⟩ := served.waits
  obtain ⟨start, fresh, interleaved⟩ := reached.timeline isNew
  obtain ⟨moment, opened⟩ := fresh.waiting_opened interleaved served.found waits
  refine ⟨fresh.opened_le interleaved opened, fun {other _ _ _ _ _ _} found waitsToo => ?_⟩
  by_cases own : other = index
  · subst own
    obtain rfl := Option.some.inj (found.symm.trans served.found)
    rw [waits] at waitsToo
    cases waitsToo
    exact .inl ⟨rfl, rfl, rfl, rfl, rfl⟩
  · refine .inr ⟨own, fun same => own ?_⟩
    subst same
    exact fresh.waiting_alone interleaved found waitsToo served.found waits

/-- In every run, a call whose answer is held waits until its turn comes, and then takes it. -/
theorem App.Reaches.pending_or_heeded {origin entered : App}
    (reached : origin.Reaches detached settings entered) (isNew : origin.IsNew)
    (served : Served index call attempt awaited session slot kind response entered.calls
      entered.service)
    {now place : Nat}
    (run : entered.present.Unfolds (hosted detached) settings now place timeline) :
    Pending place index call attempt awaited session slot kind response
        (deedsOf index entered.service.deeds) timeline.calls timeline.service ∨
      Heeded detached settings index call attempt awaited session response
        (deedsOf index entered.service.deeds) timeline := by
  have there : ∀ {now place} {timeline : Timeline Bridge Event Arrival},
      entered.present.Unfolds (hosted detached) settings now place timeline →
      origin.Reaches detached settings ⟨timeline.calls, timeline.service⟩ :=
    fun run => reached.trans (.of_interleaves run.interleaves)
  induction run with
  | origin now idle => exact .inl ⟨served, Nat.zero_le _, rfl⟩
  | @start now place timeline taker prior found idle due inductionHypothesis =>
      rcases inductionHypothesis with pending | heeded
      · have other : place ≠ index := by
          rintro rfl
          obtain ⟨since, began, waits⟩ := pending.waits
          obtain rfl := Option.some.inj (found.symm.trans pending.found)
          simp [idle] at waits
        have old : session ≤ timeline.service.opened :=
          ((there prior).apart isNew pending.toServed).1
        have foreign : timeline.service.opened + 1 ≠ session := by omega
        exact .inl (pending.turn other foreign)
      · exact .inr (heeded.step (.start now found idle))
  | @look now place timeline taker attempting ahead present since began prior found waits unheard
      inductionHypothesis =>
      rcases inductionHypothesis with pending | heeded
      · rcases ((there prior).apart isNew pending.toServed).2 found waits with
          ⟨_, _, _, _, own⟩ | ⟨_, foreign⟩
        · cases unheard.symm.trans
            (pending.heard detached ⟨now, place, present⟩ own ahead.stage since)
        · exact .inl (pending.look _ _ foreign)
      · exact .inr (heeded.step (.poll _ _ _))
  | @answer now place timeline taker attempting ahead present since began answer prior found waits
      heard inductionHypothesis =>
      rcases inductionHypothesis with pending | heeded
      · rcases ((there prior).apart isNew pending.toServed).2 found waits with
          ⟨rfl, rfl, rfl, rfl, rfl⟩ | ⟨other, foreign⟩
        · cases heard.symm.trans
            (pending.heard detached ⟨now, place, present⟩ rfl ahead.stage since)
          have silent := Service.poll_deeds (hosted detached) ⟨now, place, present⟩
            ahead.stage since timeline.service
          exact .inr ⟨timeline.look (hosted detached) ⟨now, place, present⟩ ahead.stage since, now,
            began, found, (congrArg _ silent).trans pending.still, .refl⟩
        · exact .inl ((pending.look _ _ foreign).turn other foreign)
      · exact .inr ((heeded.step (.poll _ _ _)).step (.react now found waits (.answered answer)))
  | @expire now place timeline taker attempting ahead present since began prior found waits
      unheard late inductionHypothesis =>
      rcases inductionHypothesis with pending | heeded
      · rcases ((there prior).apart isNew pending.toServed).2 found waits with
          ⟨_, _, _, _, own⟩ | ⟨other, foreign⟩
        · cases unheard.symm.trans
            (pending.heard detached ⟨now, place, present⟩ own ahead.stage since)
        · exact .inl ((pending.look _ _ foreign).turn other foreign)
      · exact .inr ((heeded.step (.poll _ _ _)).step (.react now found waits .expired))
  | @cancel now place timeline taker attempting ahead present since began patience prior found
      waits settled limited due inductionHypothesis =>
      rcases inductionHypothesis with pending | heeded
      · rcases ((there prior).apart isNew pending.toServed).2 found waits with
          ⟨rfl, rfl, _⟩ | ⟨other, foreign⟩
        · exact absurd settled (pending.unsettled now)
        · exact .inl (pending.turn other foreign)
      · exact .inr (heeded.step (.react now found waits .cancelled))
  | @pass now place timeline taker prior found settled inductionHypothesis =>
      rcases inductionHypothesis with pending | heeded
      · have other : place ≠ index := by
          rintro rfl
          obtain rfl := Option.some.inj (found.symm.trans pending.found)
          exact pending.unsettled now settled
        have before := pending.before
        exact .inl ⟨pending.toServed, by omega, pending.still⟩
      · exact .inr heeded
  | again prior inductionHypothesis =>
      exact inductionHypothesis.imp_left fun pending =>
        ⟨pending.toServed, Nat.zero_le _, pending.still⟩
  | @receive now timeline prior signal inductionHypothesis =>
      exact inductionHypothesis.imp (·.receive detached now signal) (·.step (.receive now signal))
  | queue prior signals inductionHypothesis =>
      exact inductionHypothesis.imp id (·.step (.queue signals))
  | wake prior idle forward inductionHypothesis =>
      rcases inductionHypothesis with pending | heeded
      · have inside := (List.getElem?_eq_some_iff.mp pending.found).1
        exact absurd pending.before (Nat.not_le_of_lt inside)
      · exact .inr heeded

end Run

/-- A call waits for an answer that may still call back. -/
structure App.Awaits (app : App) (index : Nat) (call : Call) (attempt : Attempt)
    (awaited : Awaited) (session : Nat) (kind : Kind) : Prop where
  found : app.calls[index]? = some call
  waits : ∃ since began, call.status = .waiting attempt awaited session since began
  asked : ∃ request, app.service.world.board.waiting? session = some request ∧ request.kind = kind

/-- What calls back is held for whoever waits for it. -/
theorem App.Awaits.enter {app : App} {index : Nat} {call : Call} {attempt : Attempt}
    {awaited : Awaited} {session : Nat} {kind : Kind}
    (awaits : app.Awaits index call attempt awaited session kind)
    (sound : app.service.world.board.Sound) (pending : Option Raised) {sent : Sent}
    {callback : Callback}
    (read : ((Progress.mk app.service.world.machine pending []).callback sent).1 = callback)
    (answers : callback.answers kind = true) :
    ∃ slot, Served index call attempt awaited session slot kind callback.response.1
      (app.enter ⟨.callback session sent, pending⟩).2.calls
      (app.enter ⟨.callback session sent, pending⟩).2.service := by
  obtain ⟨request, waits, rfl⟩ := awaits.asked
  obtain ⟨slot, latest⟩ := sound.asked waits
  have board : (app.enter ⟨.callback session sent, pending⟩).2.service.world.board =
      app.service.world.board.perform (.callback session callback) := by
    simp only [enter_service, Entrance.outcome, Progress.route_board, read]
    rfl
  have unasked : ∀ other, Operation.callback session callback ≠ .expect session other := by simp
  have held := latest.perform sound.orderly unasked
  have answered : Request.follow slot ⟨session, request.kind, true, .empty⟩
      (.callback session callback) =
        ⟨session, request.kind, false, .holding callback.response.1⟩ := by
    simp [Request.follow, answers, Request.answer]
  rw [answered] at held
  refine ⟨slot, ?_, awaits.waits, ?_⟩
  · simpa [Entrance.outcome] using awaits.found
  · rw [board]
    exact ⟨sound.perform (by simp), held⟩

end Storefront.Host
