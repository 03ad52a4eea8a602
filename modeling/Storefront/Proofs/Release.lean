import Mathlib.Data.List.Nodup
import Storefront.Proofs.Life
import Storefront.Proofs.Unfolding

/-!
# Sessions are ended once

Sessions are numbered as they are opened, and a number belongs to one call. What that call
does with its session is a matter of its own life; `Fresh.released` puts the two together. That
sessions are ended at all needs runs that end, which is `run_drained`.
-/

namespace Storefront

variable {World Show Signal : Type}

/-- Whether an action is a use of the call's session. -/
@[simp] def Action.isSession : Action → Bool
  | .openSession | .ask _ | .endSession => true
  | _ => false

/-- The openings of sessions among some deeds. -/
def openings (deeds : List Deed) : List Deed :=
  deeds.filter fun deed => deed.action = .openSession

/-- The ends of one session among some deeds. -/
def endings (session : Nat) (deeds : List Deed) : List Deed :=
  deeds.filter fun deed => deed.scene.session = session ∧ deed.action = .endSession

@[simp] theorem openings_append (before after : List Deed) :
    openings (before ++ after) = openings before ++ openings after :=
  List.filter_append ..

theorem mem_openings {deeds : List Deed} {deed : Deed} :
    deed ∈ openings deeds ↔ deed ∈ deeds ∧ deed.action = .openSession := by
  simp [openings]

/-- A turn opens sessions under the number of its scene. -/
theorem Turn.openings_deeds (turn : Turn) (scene : Scene) :
    (openings (turn.deeds scene)).map (·.scene.session) =
      List.replicate (turn.actions.count .openSession) scene.session := by
  simp only [openings, deeds, List.filter_map, List.map_map, Function.comp_def, List.map_const',
    List.count_eq_length_filter]
  congr 2

theorem count_once (head tail : List Action) {action : Action} (before : action ∉ head)
    (after : action ∉ tail) : (head ++ action :: tail).count action = 1 := by
  rw [List.count_append, List.count_cons_self, List.count_eq_zero.mpr before,
    List.count_eq_zero.mpr after]

/-- There is one way to part a list at an action that is in it once. -/
theorem split_unique {first second head tail : List Action} {action : Action}
    (same : first ++ action :: second = head ++ action :: tail) (before : action ∉ head)
    (after : action ∉ tail) : first = head ∧ second = tail := by
  rcases List.append_eq_append_iff.mp same with ⟨rest, rfl, left⟩ | ⟨rest, rfl, left⟩
  · cases rest with
    | nil => simpa using left
    | cons next rest =>
        rw [List.cons_append, List.cons.injEq] at left
        exact absurd (by simp [left.1]) before
  · cases rest with
    | nil => simpa using left.symm
    | cons next rest =>
        rw [List.cons_append, List.cons.injEq] at left
        exact absurd (by simp [left.2]) after

/-- A first turn opens at most one session. -/
theorem Order.FirstTurn.opens_once {order : Order} {busy : Bool} {turn : Turn}
    (form : order.FirstTurn busy turn) : turn.actions.count .openSession ≤ 1 := by
  cases form with
  | @opened catalog remarks line accepted free quiet =>
      have once : List.count Action.openSession _ = 1 := count_once
        (.begin :: (order.purpose.claim ++ remarks)) [.log line, .ask .setup]
        (by simp [not_mem_of_all quiet]) (by simp)
      simpa using Nat.le_of_eq once
  | unread | empty | notSingle | refused => simp

/-- No later turn opens a session. -/
theorem Attempt.NextTurn.opens_nothing {attempt : Attempt} {awaited : Awaited} {turn : Turn}
    (form : attempt.NextTurn awaited turn) : .openSession ∉ turn.actions := by
  cases form with
  | asks quiet same stage progress => simp [not_mem_of_all quiet]
  | @succeeds first outcome line speech =>
      have unopened : .openSession ∉ first := fun member => by simpa using speech _ member
      simp [unopened, hangUp, Action.say]
  | fails quiet still tried =>
      simp [not_mem_of_all quiet, not_mem_of_all still, hangUp, Action.say]
  | cancelled => simp [hangUp, Action.say]

namespace Life

variable {order : Order} {status : Status} {actions : List Action}

/-- A call opens at most one session. -/
theorem opens_once (life : Life order status actions) : actions.count .openSession ≤ 1 := by
  cases life with
  | unstarted => simp
  | dismissed quiet reason =>
      rw [List.count_eq_zero.mpr (by simp [not_mem_of_all quiet])]
      omega
  | @waiting remarks middle _ _ _ _ _ _ accepted purpose quiet inner =>
      have once : List.count Action.openSession _ = 1 := count_once
        (.begin :: (order.purpose.claim ++ remarks)) middle
        (by simp [not_mem_of_all quiet]) (by simp [not_mem_of_all inner])
      simpa using Nat.le_of_eq once
  | @concluded remarks middle last _ ending _ accepted quiet inner outer tried told =>
      have once : List.count Action.openSession _ = 1 := count_once
        (.begin :: (order.purpose.claim ++ remarks))
        (middle ++ .endSession :: (last ++ order.purpose.yield ++
          [.finish order.purpose ending]))
        (by simp [not_mem_of_all quiet]) (by simp [not_mem_of_all inner, not_mem_of_all outer])
      simpa using Nat.le_of_eq once

/-- A call that began opens a session exactly if its catalog is accepted and, for a purchase,
it raised the flag. -/
theorem opens_iff (life : Life order status actions) (begun : status ≠ .notStarted) :
    .openSession ∈ actions ↔ (∃ catalog, order.Accepts catalog) ∧
      (order.purpose = .purchase → .raiseFlag ∈ actions) := by
  constructor
  · intro opened
    exact ⟨life.accepted opened, fun purchase => life.raiseFlag_iff.mpr ⟨purchase, opened⟩⟩
  · rintro ⟨⟨catalog, accepted⟩, raised⟩
    cases life with
    | unstarted => exact absurd rfl begun
    | dismissed quiet reason =>
        rcases reason with ⟨unaccepted, _⟩ | ⟨purchase, _⟩
        · exact absurd accepted (unaccepted catalog)
        · simp [not_mem_of_all quiet, purchase] at raised
    | waiting => simp
    | concluded => simp

/-- Who uses a session opened it. -/
theorem opened_of_session (life : Life order status actions) {action : Action}
    (member : action ∈ actions) (session : action.isSession = true) :
    .openSession ∈ actions := by
  cases life with
  | unstarted => simp at member
  | dismissed quiet reason =>
      simp only [List.mem_cons, List.mem_append, List.not_mem_nil, or_false] at member
      rcases member with rfl | member | rfl
      · simp at session
      · have closing := quiet action member
        cases action <;> simp_all
      · simp at session
  | waiting => simp
  | concluded => simp

/-- A call that is not over ended no session. -/
theorem unended (life : Life order status actions)
    (unfinished : ∀ ending moment, status ≠ .finished ending moment) : .endSession ∉ actions := by
  cases life with
  | unstarted => simp
  | waiting accepted purpose quiet inner =>
      simp [not_mem_of_all quiet, not_mem_of_all inner]
  | dismissed => exact absurd rfl (unfinished _ _)
  | concluded => exact absurd rfl (unfinished _ _)

/-- How what a call did parts at the end of its session. -/
structure Parts (order : Order) (ending : Ending) (before after : List Action) : Prop where
  first : .endSession ∉ before
  last : ∀ action ∈ after, action.isSession = false
  unreported : ∀ failure, .report failure ∉ before
  unfinished : ∀ purpose ending, .finish purpose ending ∉ before
  reported : ∀ failure, ending = .failed failure → .report failure ∈ after
  finished : .finish order.purpose ending ∈ after

/-- A call that is over ended the session it opened. -/
theorem parts {ending : Ending} {moment : Nat} (life : Life order (.finished ending moment) actions)
    (opened : .openSession ∈ actions) :
    ∃ before after, actions = before ++ .endSession :: after ∧
      Parts order ending before after := by
  cases life with
  | dismissed quiet reason => simp [not_mem_of_all quiet] at opened
  | @concluded remarks middle last _ _ _ accepted quiet inner outer tried told =>
      refine ⟨.begin :: (order.purpose.claim ++ remarks ++ .openSession :: middle),
        last ++ order.purpose.yield ++ [.finish order.purpose ending], by simp, ?_⟩
      have unused : ∀ action ∈ last ++ order.purpose.yield ++ [.finish order.purpose ending],
          action.isSession = false := by
        intro action member
        simp only [List.mem_append, List.mem_singleton, Purpose.mem_yield] at member
        rcases member with (member | ⟨_, rfl⟩) | rfl
        · have closing := outer action member
          cases action <;> simp_all
        · rfl
        · rfl
      exact {
        first := by simp [not_mem_of_all quiet, not_mem_of_all inner]
        last := unused
        unreported := by simp [not_mem_of_all quiet, not_mem_of_all inner]
        unfinished := by simp [not_mem_of_all quiet, not_mem_of_all inner]
        reported := fun failure failed => by simp [told failure failed]
        finished := by simp
      }

end Life

namespace Timeline

variable {backend : Backend World Show Signal} {settings : Settings}
  {origin timeline : Timeline World Show Signal}

/-- Sessions are numbered in the order they are opened in. -/
theorem Fresh.numbered (fresh : origin.Fresh)
    (reached : origin.Interleaves backend settings timeline) :
    (openings timeline.service.deeds).map (·.scene.session) =
      List.range' 1 timeline.service.opened := by
  induction reached with
  | refl => simp [fresh.deeds, fresh.unopened, openings]
  | @step before next prior transition inductionHypothesis =>
      cases transition with
      | @start index call now found idle =>
          have once := (call.order.start_firstTurn before.service.busy).opens_once
          rw [takeTurn_deeds, openings_append, List.map_append, Turn.openings_deeds,
            inductionHypothesis, takeTurn_service, Service.performAll_opened]
          generalize (call.order.start before.service.busy).actions.count .openSession = new at once
          obtain rfl | rfl : new = 0 ∨ new = 1 := by omega
          · simp
          · simp [List.range'_concat, Nat.add_comm]
      | react now found waits reaction =>
          rw [takeTurn_deeds, openings_append, List.map_append, Turn.openings_deeds,
            inductionHypothesis, takeTurn_service, Service.performAll_opened,
            List.count_eq_zero.mpr reaction.nextTurn.opens_nothing]
          simp
      | poll scene stage since => simpa using inductionHypothesis
      | receive now signal => simpa using inductionHypothesis
      | queue signals => exact inductionHypothesis

/-- A session is opened once. -/
theorem Fresh.opening_unique (fresh : origin.Fresh)
    (reached : origin.Interleaves backend settings timeline) {first second : Scene}
    (one : ⟨first, .openSession⟩ ∈ timeline.service.deeds)
    (other : ⟨second, .openSession⟩ ∈ timeline.service.deeds)
    (same : first.session = second.session) : first = second := by
  have distinct : ((openings timeline.service.deeds).map (·.scene.session)).Nodup :=
    fresh.numbered reached ▸ List.nodup_range'
  have equal := List.inj_on_of_nodup_map distinct (mem_openings.mpr ⟨one, rfl⟩)
    (mem_openings.mpr ⟨other, rfl⟩) same
  exact congrArg Deed.scene equal

/-- Every use of a session is by the call that opened it. -/
theorem Fresh.owned (fresh : origin.Fresh)
    (reached : origin.Interleaves backend settings timeline) {deed : Deed}
    (member : deed ∈ timeline.service.deeds) (uses : deed.action.isSession = true) :
    ∃ now, ⟨⟨now, deed.scene.call, deed.scene.session⟩, .openSession⟩ ∈
      timeline.service.deeds := by
  cases found : timeline.calls[deed.scene.call]? with
  | none =>
      have nothing := fresh.strangers reached found
      have own := mem_deedsOf.mpr ⟨member, rfl⟩
      simp [nothing] at own
  | some call =>
      have own : deed.action ∈ actionsOf deed.scene.call timeline.service.deeds :=
        mem_actionsOf.mpr ⟨deed, member, rfl, rfl⟩
      obtain ⟨opening, inJournal, owner, opens⟩ :=
        mem_actionsOf.mp ((fresh.life reached found).opened_of_session own uses)
      obtain ⟨session, same, _⟩ := (fresh.story reached found).session
      have here := same deed (mem_deedsOf.mpr ⟨member, rfl⟩)
      have there := same opening (mem_deedsOf.mpr ⟨inJournal, owner⟩)
      refine ⟨opening.scene.now, ?_⟩
      rw [here, ← there, ← owner, ← opens]
      exact inJournal

section Waiting

variable (fresh : origin.Fresh) (reached : origin.Interleaves backend settings timeline)
include fresh reached

/-- Whoever waits in a session opened it. -/
theorem Fresh.waiting_opened {index : Nat} {call : Call}
    (found : timeline.calls[index]? = some call) {attempt : Attempt} {awaited : Awaited}
    {session since began : Nat}
    (waits : call.status = .waiting attempt awaited session since began) :
    ∃ moment, ⟨⟨moment, index, session⟩, .openSession⟩ ∈ timeline.service.deeds := by
  have life := fresh.life reached found
  rw [waits] at life
  obtain ⟨⟨scene, action⟩, member, rfl, rfl⟩ := mem_actionsOf.mp life.of_waiting.2.1
  have here : scene.session = session :=
    (fresh.story reached found).waiting_session waits (mem_deedsOf.mpr ⟨member, rfl⟩)
  exact ⟨scene.now, here ▸ member⟩

theorem Fresh.opened_le {scene : Scene}
    (opened : ⟨scene, .openSession⟩ ∈ timeline.service.deeds) :
    scene.session ≤ timeline.service.opened := by
  have member : scene.session ∈ (openings timeline.service.deeds).map (·.scene.session) :=
    List.mem_map_of_mem (f := (·.scene.session)) (mem_openings.mpr ⟨opened, rfl⟩)
  rw [fresh.numbered reached, List.mem_range'_1] at member
  omega

/-- No two calls wait in one session. -/
theorem Fresh.waiting_alone {first second : Nat} {call other : Call}
    (found : timeline.calls[first]? = some call) {attempt : Attempt} {awaited : Awaited}
    {session since began : Nat}
    (waits : call.status = .waiting attempt awaited session since began)
    (isThere : timeline.calls[second]? = some other) {attempting : Attempt} {waited : Awaited}
    {start began' : Nat}
    (waitsToo : other.status = .waiting attempting waited session start began') :
    first = second := by
  obtain ⟨moment, opened⟩ := fresh.waiting_opened reached found waits
  obtain ⟨later, again⟩ := fresh.waiting_opened reached isThere waitsToo
  exact congrArg Scene.call (fresh.opening_unique reached opened again rfl)

end Waiting

/-- How the deeds on a service part at the end of a session: that is the only end of the
session and its last use, and the call reports a failure and returns only after it. -/
structure PartsAtEnd (deeds before after : List Deed) (index session : Nat) (order : Order)
    (ending : Ending) : Prop where
  parts : ∃ now, deeds = before ++ ⟨⟨now, index, session⟩, .endSession⟩ :: after
  first : ∀ deed ∈ before, deed.scene.session = session → deed.action ≠ .endSession
  last : ∀ deed ∈ after, deed.scene.session = session → deed.action.isSession = false
  unreported : ∀ failure, .report failure ∉ actionsOf index before
  unfinished : ∀ purpose ending, .finish purpose ending ∉ actionsOf index before
  reported : ∀ failure, ending = .failed failure → .report failure ∈ actionsOf index after
  finished : .finish order.purpose ending ∈ actionsOf index after

/-- What holds of the sessions on a timeline. -/
structure Released (timeline : Timeline World Show Signal) : Prop where
  /-- Sessions are numbered in the order they are opened in. -/
  numbered : (openings timeline.service.deeds).map (·.scene.session) =
    List.range' 1 timeline.service.opened
  /-- Every use of a session is by the call that opened it. -/
  owned : ∀ {deed}, deed ∈ timeline.service.deeds → deed.action.isSession = true →
    ∃ now, ⟨⟨now, deed.scene.call, deed.scene.session⟩, .openSession⟩ ∈ timeline.service.deeds
  opens_once : ∀ index, (actionsOf index timeline.service.deeds).count .openSession ≤ 1
  /-- A call that began opened a session exactly if its catalog is accepted and, for a
  purchase, it raised the flag. -/
  opens_iff : ∀ {index call}, timeline.calls[index]? = some call → call.status ≠ .notStarted →
    (.openSession ∈ actionsOf index timeline.service.deeds ↔
      (∃ catalog, call.order.Accepts catalog) ∧ (call.order.purpose = .purchase →
        .raiseFlag ∈ actionsOf index timeline.service.deeds))
  /-- The session of a call that is over was ended once. -/
  ended : ∀ {scene call ending moment}, timeline.calls[scene.call]? = some call →
    ⟨scene, .openSession⟩ ∈ timeline.service.deeds → call.status = .finished ending moment →
    ∃ before after, PartsAtEnd timeline.service.deeds before after scene.call scene.session
      call.order ending
  /-- The session of a call that is not over was not ended yet. -/
  unended : ∀ {scene call}, timeline.calls[scene.call]? = some call →
    ⟨scene, .openSession⟩ ∈ timeline.service.deeds → call.isOver = false →
    IsOpen timeline.service.deeds scene.call scene.session
  /-- No session is open when all calls are over. -/
  quiet : (∀ call ∈ timeline.calls, call.isOver = true) →
    ∀ index session, ¬ IsOpen timeline.service.deeds index session

/-- Whoever uses a session is the call that opened it. -/
theorem Fresh.user (fresh : origin.Fresh)
    (reached : origin.Interleaves backend settings timeline) {scene : Scene} {deed : Deed}
    (opened : ⟨scene, .openSession⟩ ∈ timeline.service.deeds)
    (member : deed ∈ timeline.service.deeds) (uses : deed.action.isSession = true)
    (same : deed.scene.session = scene.session) : deed.scene.call = scene.call := by
  obtain ⟨now, opening⟩ := fresh.owned reached member uses
  rw [← fresh.opening_unique reached opening opened same]

/-- The end of a session among all deeds, by the life of its call. -/
theorem Fresh.partsAtEnd (fresh : origin.Fresh)
    (reached : origin.Interleaves backend settings timeline) {scene : Scene} {call : Call}
    {ending : Ending} {moment : Nat} (found : timeline.calls[scene.call]? = some call)
    (opened : ⟨scene, .openSession⟩ ∈ timeline.service.deeds)
    (ends : call.status = .finished ending moment) :
    ∃ before after, PartsAtEnd timeline.service.deeds before after scene.call scene.session
      call.order ending := by
  have life := fresh.life reached found
  rw [ends] at life
  obtain ⟨head, tail, whole, parts⟩ := life.parts (mem_actionsOf.mpr ⟨_, opened, rfl, rfl⟩)
  obtain ⟨session, own, _⟩ := (fresh.story reached found).session
  have endsThere : .endSession ∈ actionsOf scene.call timeline.service.deeds := by simp [whole]
  obtain ⟨close, member, owner, closes⟩ := mem_actionsOf.mp endsThere
  obtain ⟨before, after, journal⟩ := List.append_of_mem member
  have here : close.scene.session = scene.session :=
    (own close (mem_deedsOf.mpr ⟨member, owner⟩)).trans
      (own _ (mem_deedsOf.mpr ⟨opened, rfl⟩)).symm
  have split : actionsOf scene.call before ++ .endSession :: actionsOf scene.call after =
      head ++ .endSession :: tail := by
    rw [← whole, journal, actionsOf_append]
    simp [actionsOf, deedsOf, owner, closes]
  obtain ⟨rfl, rfl⟩ := split_unique split parts.first
    fun again => by simpa using parts.last _ again
  have inside : ∀ {deed}, deed ∈ before ∨ deed ∈ after → deed ∈ timeline.service.deeds := by
    intro deed member
    rcases member with member | member <;> simp [journal, member]
  refine ⟨before, after, ⟨⟨close.scene.now, ?_⟩, ?_, ?_, parts.unreported, parts.unfinished,
    parts.reported, parts.finished⟩⟩
  · rw [journal, ← owner, ← here, ← closes]
  · intro deed member same ends
    have user := fresh.user reached opened (inside (.inl member)) (by simp [ends]) same
    exact parts.first (mem_actionsOf.mpr ⟨deed, member, user, ends⟩)
  · intro deed member same
    by_contra uses
    have user := fresh.user reached opened (inside (.inr member)) (by simpa using uses) same
    exact uses (parts.last _ (mem_actionsOf.mpr ⟨deed, member, user, rfl⟩))

/-- What every order of steps keeps to: sessions are ended once, by the call that opened them
and before it returns. -/
theorem Fresh.released (fresh : origin.Fresh)
    (reached : origin.Interleaves backend settings timeline) : timeline.Released where
  numbered := fresh.numbered reached
  owned member uses := fresh.owned reached member uses
  opens_once index := by
    cases found : timeline.calls[index]? with
    | none => simp [actionsOf, fresh.strangers reached found]
    | some call => exact (fresh.life reached found).opens_once
  opens_iff found begun := (fresh.life reached found).opens_iff begun
  ended found opened ends := fresh.partsAtEnd reached found opened ends
  unended {scene call} found opened unfinished := by
    refine ⟨⟨scene.now, opened⟩, fun deed member same ends => ?_⟩
    have user := fresh.user reached opened member (by simp [ends]) same
    have life := fresh.life reached found
    refine life.unended ?_ (mem_actionsOf.mpr ⟨deed, member, user, ends⟩)
    intro ending moment ends
    simp [Call.isOver, ends] at unfinished
  quiet allOver index session isOpen := by
    obtain ⟨now, opened⟩ := isOpen.opened
    cases found : timeline.calls[index]? with
    | none =>
        have own := mem_deedsOf.mpr ⟨opened, rfl⟩
        simp [fresh.strangers reached found] at own
    | some call =>
        have isOver := allOver call (List.mem_of_getElem? found)
        cases status : call.status with
        | finished ending moment =>
            obtain ⟨before, after, parted⟩ := fresh.partsAtEnd reached found opened status
            obtain ⟨closing, journal⟩ := parted.parts
            exact isOpen.unended ⟨⟨closing, index, session⟩, .endSession⟩ (by simp [journal])
              rfl rfl
        | notStarted => simp [Call.isOver, status] at isOver
        | waiting => simp [Call.isOver, status] at isOver

/-- A session that is parted at its end was ended once. -/
theorem PartsAtEnd.ended_once {deeds before after : List Deed} {index session : Nat}
    {order : Order} {ending : Ending}
    (parted : PartsAtEnd deeds before after index session order ending) :
    (endings session deeds).length = 1 := by
  obtain ⟨now, rfl⟩ := parted.parts
  have first : endings session before = [] := by
    apply List.filter_eq_nil_iff.mpr
    intro deed member
    simpa using parted.first deed member
  have last : endings session after = [] := by
    apply List.filter_eq_nil_iff.mpr
    intro deed member
    simp only [decide_eq_true_eq, not_and]
    intro same ends
    simpa [ends] using parted.last deed member same
  have parts : endings session (before ++ ⟨⟨now, index, session⟩, .endSession⟩ :: after) =
      endings session before ++ ⟨⟨now, index, session⟩, .endSession⟩ ::
        endings session after := by
    simp [endings]
  rw [parts, first, last]
  rfl

/-- Every session that was opened is ended once, or it is open in a call that nothing will
ever move on. -/
theorem Fresh.ended_once (fresh : origin.Fresh)
    (reached : origin.Interleaves backend settings timeline)
    (drained : timeline.Drained backend settings) {session : Nat} (first : 1 ≤ session)
    (last : session ≤ timeline.service.opened) :
    (endings session timeline.service.deeds).length = 1 ∨
      ∃ index call, timeline.calls[index]? = some call ∧
        IsOpen timeline.service.deeds index session ∧
        call.Stranded backend settings timeline.service.world := by
  have numbered := (fresh.released reached).numbered
  have member : session ∈ List.range' 1 timeline.service.opened :=
    List.mem_range'_1.mpr ⟨first, by omega⟩
  rw [← numbered] at member
  obtain ⟨⟨scene, action⟩, opening, rfl⟩ := List.mem_map.mp member
  obtain ⟨opened, rfl⟩ := mem_openings.mp opening
  have own := mem_deedsOf.mpr ⟨opened, rfl⟩
  cases found : timeline.calls[scene.call]? with
  | none => simp [fresh.strangers reached found] at own
  | some call =>
      rcases drained.left found with ends | stranded | ⟨idle, _⟩
      · cases status : call.status with
        | finished ending moment =>
            obtain ⟨before, after, parted⟩ := fresh.partsAtEnd reached found opened status
            exact .inl parted.ended_once
        | notStarted => simp [Call.isOver, status] at ends
        | waiting => simp [Call.isOver, status] at ends
      · have unfinished : call.isOver = false := by
          obtain ⟨_, _, _, _, _, waits, _⟩ := stranded
          simp [Call.isOver, waits]
        exact .inr ⟨scene.call, call, found,
          (fresh.released reached).unended found opened unfinished, stranded⟩
      · simp [(fresh.story reached found).unstarted_deeds idle] at own

/-- No connection leaks. Whatever the order of the calls' turns and whatever becomes of their
stages, a session is ended once, as the last use of it and before its call reports a failure
or returns. And a run goes on until every session it opened is ended, except those of calls
whose stage is never answered and has no time limit and whose caller does not give up. -/
theorem connections_released (scripts : List Script) (quiet : Bool) (settings : Settings)
    {origin : Timeline Unit Recorded Empty} (fresh : origin.Fresh) :
    (∀ timeline, origin.Interleaves (scripted scripts quiet) settings timeline →
        timeline.Released) ∧
      (origin.run (scripted scripts quiet) settings).Drained (scripted scripts quiet) settings ∧
      ∀ session, 1 ≤ session →
        session ≤ (origin.run (scripted scripts quiet) settings).service.opened →
        (endings session (origin.run (scripted scripts quiet) settings).service.deeds).length = 1 ∨
          ∃ index call,
            (origin.run (scripted scripts quiet) settings).calls[index]? = some call ∧
            IsOpen (origin.run (scripted scripts quiet) settings).service.deeds index session ∧
            call.Stranded (scripted scripts quiet) settings () := by
  have drained : (origin.run (scripted scripts quiet) settings).Drained (scripted scripts quiet)
      settings := run_drained (scripted_honest scripts quiet) origin
  exact ⟨fun timeline reached => fresh.released reached, drained, fun session first last =>
    fresh.ended_once (run_interleaves _ _ _) drained first last⟩

/-- A lookup that is never answered, and a purchase that is given up on meanwhile. -/
def unanswered : Timeline Unit Recorded Empty where
  calls :=
    let premium : Catalog.Canonical := ⟨[⟨false, "subs", "premium"⟩]⟩
    [{ order := ⟨.lookup, .catalog premium, "activity"⟩ },
      { order := ⟨.purchase, .catalog premium, "activity"⟩, delay := 5, patience := some 7 }]
  service := { world := () }

/-- Both sessions are ended, by the time limit and by the caller. -/
theorem unanswered_released :
    ((unanswered.run (scripted [{ setup := { wait := .never } }] true) {}).Drained
        (scripted [{ setup := { wait := .never } }] true) {}) ∧
      (unanswered.run (scripted [{ setup := { wait := .never } }] true) {}).service.opened = 2 ∧
      (unanswered.run (scripted [{ setup := { wait := .never } }] true) {}).calls.all
        (·.isOver) = true := by
  have fresh : unanswered.Fresh := ⟨by decide, rfl, rfl, rfl⟩
  exact ⟨(connections_released _ _ _ fresh).2.1, by decide +kernel, by decide +kernel⟩

end Timeline

end Storefront
