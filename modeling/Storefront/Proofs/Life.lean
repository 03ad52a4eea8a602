import Storefront.Proofs.Story

/-!
# The life of a call

`Life` says what the story of a call comes to: in which order it raises the flag, opens its
session, ends the session, lowers the flag and finishes. The facts after it read single
consequences off that order, for a whole life and for a beginning of one.
-/

namespace Storefront

variable {World Show Signal : Type}

/-- Whether an action belongs to the middle of an attempt. -/
@[simp] def Action.isMiddle : Action → Bool
  | .log _ | .ask _ | .deliver _ => true
  | _ => false

/-- Whether an action may come between the end of a session and that of its call. -/
@[simp] def Action.isClosing : Action → Bool
  | .log _ | .report _ => true
  | _ => false

/-- What a call that is now at a status has done, by the order of its decisive actions. -/
inductive Life (order : Order) : Status → List Action → Prop where
  | unstarted : Life order .notStarted []
  | dismissed {remarks ending moment}
      (quiet : ∀ action ∈ remarks, action.isClosing = true)
      (reason : (∀ catalog, ¬ order.Accepts catalog) ∧ ending ≠ .failed .purchaseInProgress ∨
        order.purpose = .purchase ∧ ending = .failed .purchaseInProgress) :
      Life order (.finished ending moment) (.begin :: (remarks ++ [.finish order.purpose ending]))
  | waiting {remarks middle catalog attempt awaited session since began}
      (accepted : order.Accepts catalog) (purpose : attempt.purpose = order.purpose)
      (quiet : ∀ action ∈ remarks, action.isRemark = true)
      (inner : ∀ action ∈ middle, action.isMiddle = true) :
      Life order (.waiting attempt awaited session since began)
        (.begin :: (order.purpose.claim ++ remarks ++ .openSession :: middle))
  | concluded {remarks middle last catalog ending moment}
      (accepted : order.Accepts catalog)
      (quiet : ∀ action ∈ remarks, action.isRemark = true)
      (inner : ∀ action ∈ middle, action.isMiddle = true)
      (outer : ∀ action ∈ last, action.isClosing = true)
      (tried : ending ≠ .failed .purchaseInProgress)
      (told : ∀ failure, ending = .failed failure → .report failure ∈ last) :
      Life order (.finished ending moment)
        (.begin :: (order.purpose.claim ++ remarks ++ .openSession ::
          (middle ++ .endSession :: (last ++ order.purpose.yield ++
            [.finish order.purpose ending]))))

theorem Action.isMiddle_of_isRemark {action : Action} (remark : action.isRemark = true) :
    action.isMiddle = true := by
  cases action <;> simp_all [isRemark, isMiddle]

theorem Action.isClosing_of_isRemark {action : Action} (remark : action.isRemark = true) :
    action.isClosing = true := by
  cases action <;> simp_all [isRemark, isClosing]

/-- The first turn of a call leaves it with a life. -/
theorem Order.FirstTurn.life {order : Order} {busy : Bool} {turn : Turn}
    (form : order.FirstTurn busy turn) (scene : Scene) (began : Nat) :
    Life order (turn.rest.status scene began) turn.actions := by
  have silent : ∀ action ∈ ([] : List Action), action.isClosing = true := by simp
  cases form with
  | unread read =>
      have unaccepted : ∀ catalog, ¬ order.Accepts catalog := by
        rintro catalog ⟨readable, _⟩
        simp [read] at readable
      exact .dismissed silent (.inl ⟨unaccepted, by simp⟩)
  | @empty catalog line purpose read isEmpty =>
      have unaccepted : ∀ catalog, ¬ order.Accepts catalog := by
        rintro other ⟨readable, filled⟩
        rw [read] at readable
        cases readable
        simp [purpose, isEmpty] at filled
      have said : ∀ action ∈ [Action.log line], action.isClosing = true := by
        simp [Action.isClosing]
      exact .dismissed said (.inl ⟨unaccepted, by simp⟩)
  | notSingle purpose read single =>
      have unaccepted : ∀ catalog, ¬ order.Accepts catalog := by
        rintro other ⟨readable, filled⟩
        rw [read] at readable
        cases readable
        simp [purpose, single] at filled
      exact .dismissed silent (.inl ⟨unaccepted, by simp⟩)
  | @refused catalog line purpose accepted taken =>
      have said : ∀ action ∈ [Action.log line, .report .purchaseInProgress],
          action.isClosing = true := by
        simp [Action.isClosing]
      exact .dismissed said (.inr ⟨purpose, rfl⟩)
  | opened accepted free quiet =>
      exact .waiting accepted rfl quiet (by simp [Action.isMiddle])

/-- A waiting call that speaks, hangs up, speaks again and finishes has concluded. -/
theorem Life.conclude {order : Order} {attempt : Attempt} {awaited : Awaited}
    {session since began moment : Nat} {past first last : List Action} {ending : Ending}
    (prior : Life order (.waiting attempt awaited session since began) past)
    (inner : ∀ action ∈ first, action.isMiddle = true)
    (outer : ∀ action ∈ last, action.isClosing = true)
    (tried : ending ≠ .failed .purchaseInProgress)
    (told : ∀ failure, ending = .failed failure → .report failure ∈ last) :
    Life order (.finished ending moment)
      (past ++ (first ++ (Attempt.hangUp ++ (last ++ attempt.purpose.yield ++
        [.finish attempt.purpose ending])))) := by
  cases prior with
  | @waiting remarks middle catalog _ _ _ _ _ accepted purpose quiet before =>
      have spoken : ∀ action ∈ middle ++ (first ++ [.say .debug "ending billing connection"]),
          action.isMiddle = true := by
        intro action member
        simp only [List.mem_append, List.mem_singleton] at member
        rcases member with member | member | rfl
        · exact before action member
        · exact inner action member
        · rfl
      have life : Life order (.finished ending moment) _ :=
        .concluded accepted quiet spoken outer tried told
      simpa [Attempt.hangUp, purpose] using life

/-- A later turn of a call leaves it with a life. -/
theorem Attempt.NextTurn.life {order : Order} {attempt : Attempt} {awaited : Awaited}
    {session since began : Nat} {past : List Action} {turn : Turn}
    (form : attempt.NextTurn awaited turn)
    (prior : Life order (.waiting attempt awaited session since began) past) (scene : Scene) :
    Life order (turn.rest.status scene began) (past ++ turn.actions) := by
  cases form with
  | @asks said question later ahead hushed same stage progress =>
      cases prior with
      | @waiting remarks middle catalog _ _ _ _ _ accepted purpose quiet inner =>
          have asked : ∀ action ∈ middle ++ (said ++ [.ask question]),
              action.isMiddle = true := by
            intro action member
            simp only [List.mem_append, List.mem_singleton] at member
            rcases member with member | member | rfl
            · exact inner action member
            · exact Action.isMiddle_of_isRemark (hushed action member)
            · rfl
          have life : Life order (.waiting later ahead scene.session scene.now began) _ :=
            .waiting accepted (same.trans purpose) quiet asked
          simpa [Rest.status] using life
  | @succeeds first outcome line speech =>
      refine prior.conclude (fun action member => ?_) (by simp [Action.isClosing]) (by simp)
        (by simp)
      rcases speech action member with remark | ⟨text, rfl⟩
      · exact Action.isMiddle_of_isRemark remark
      · rfl
  | @fails first moved failure line quiet still tried =>
      refine prior.conclude
        (fun action member => Action.isMiddle_of_isRemark (quiet action member))
        (fun action member => ?_) (by simpa using tried.1) (by simp)
      simp only [List.mem_append, List.mem_cons, List.not_mem_nil, or_false] at member
      rcases member with member | rfl | rfl
      · exact Action.isClosing_of_isRemark (still action member)
      · rfl
      · rfl
  | cancelled =>
      have silent : ∀ action ∈ ([] : List Action), action.isMiddle = true := by simp
      have hushed : ∀ action ∈ ([] : List Action), action.isClosing = true := by simp
      have life : Life order (.finished .cancelled scene.now) _ :=
        prior.conclude silent hushed (by simp) (by simp)
      simpa [Rest.status] using life

/-- Every story comes to a life. -/
theorem Story.life {settings : Settings} {order : Order} {index : Nat} {status : Status}
    {deeds : List Deed} (story : Story settings order index status deeds) :
    Life order status (deeds.map (·.action)) := by
  induction story with
  | unstarted => exact .unstarted
  | started now session busy =>
      rw [Turn.deeds_actions]
      exact (order.start_firstTurn busy).life _ _
  | reacted now prior reaction inductionHypothesis =>
      rw [List.map_append, Turn.deeds_actions]
      exact reaction.nextTurn.life inductionHypothesis _

attribute [simp] Action.isRemark

@[simp] theorem Purpose.mem_claim {purpose : Purpose} {action : Action} :
    action ∈ purpose.claim ↔ purpose = .purchase ∧ action = .raiseFlag := by
  cases purpose <;> simp [claim]

@[simp] theorem Purpose.mem_yield {purpose : Purpose} {action : Action} :
    action ∈ purpose.yield ↔ purpose = .purchase ∧ action = .lowerFlag := by
  cases purpose <;> simp [yield]

/-- An action that fails a test is not among actions that pass it. -/
theorem not_mem_of_all {test : Action → Bool} {actions : List Action}
    (all : ∀ action ∈ actions, test action = true) (action : Action)
    (fails : ¬ test action = true) : action ∉ actions :=
  fun member => fails (all action member)

/-- A beginning of a list with an action in it goes on past the action's first place. -/
theorem split_of_mem {first second head tail : List Action} {action : Action}
    (same : first ++ second = head ++ action :: tail) (member : action ∈ first)
    (new : action ∉ head) : ∃ rest, first = head ++ action :: rest := by
  rcases List.append_eq_append_iff.mp same with ⟨rest, whole, _⟩ | ⟨rest, whole, left⟩
  · exact absurd (whole ▸ List.mem_append_left rest member) new
  · cases rest with
    | nil => simp_all
    | cons next rest =>
        rw [List.cons_append, List.cons.injEq] at left
        exact ⟨rest, left.1 ▸ whole⟩

/-- A beginning of a list without an action stops before the action. -/
theorem prefix_of_not_mem {first second head tail : List Action} {action : Action}
    (same : first ++ second = head ++ action :: tail) (missing : action ∉ first) :
    ∃ rest, head = first ++ rest := by
  rcases List.append_eq_append_iff.mp same with ⟨rest, whole, _⟩ | ⟨rest, whole, left⟩
  · exact ⟨rest, whole⟩
  · cases rest with
    | nil => exact ⟨[], by simpa using whole.symm⟩
    | cons next rest => simp_all

namespace Life

variable {order : Order} {status : Status} {actions : List Action}

/-- The purchases that open a session are those that raise the flag. -/
theorem raiseFlag_iff (life : Life order status actions) :
    .raiseFlag ∈ actions ↔ order.purpose = .purchase ∧ .openSession ∈ actions := by
  cases life with
  | unstarted => simp
  | dismissed quiet reason => simp [not_mem_of_all quiet]
  | waiting accepted purpose quiet inner => simp [not_mem_of_all quiet, not_mem_of_all inner]
  | concluded accepted quiet inner outer tried told =>
      simp [not_mem_of_all quiet, not_mem_of_all inner, not_mem_of_all outer]

/-- Only a purchase that opened a session lowers the flag. -/
theorem raised_of_lowered (life : Life order status actions) (lowered : .lowerFlag ∈ actions) :
    .raiseFlag ∈ actions := by
  cases life with
  | unstarted => simp at lowered
  | dismissed quiet reason => simp [not_mem_of_all quiet] at lowered
  | waiting accepted purpose quiet inner =>
      simp [not_mem_of_all quiet, not_mem_of_all inner] at lowered
  | concluded accepted quiet inner outer tried told =>
      simp [not_mem_of_all quiet, not_mem_of_all inner, not_mem_of_all outer] at lowered ⊢
      exact lowered

/-- Sessions are opened for accepted catalogs only. -/
theorem accepted (life : Life order status actions) (opened : .openSession ∈ actions) :
    ∃ catalog, order.Accepts catalog := by
  cases life with
  | unstarted => simp at opened
  | dismissed quiet reason => simp [not_mem_of_all quiet] at opened
  | waiting accepted purpose quiet inner => exact ⟨_, accepted⟩
  | concluded accepted quiet inner outer tried told => exact ⟨_, accepted⟩

/-- A refused call opens no session. -/
theorem refused_unopened (life : Life order status actions) {purpose : Purpose}
    (refused : .finish purpose (.failed .purchaseInProgress) ∈ actions) :
    .openSession ∉ actions := by
  cases life with
  | unstarted => simp
  | dismissed quiet reason => simp [not_mem_of_all quiet]
  | waiting accepted purpose quiet inner =>
      simp [not_mem_of_all quiet, not_mem_of_all inner] at refused
  | concluded accepted quiet inner outer tried told =>
      simp [not_mem_of_all quiet, not_mem_of_all inner, not_mem_of_all outer] at refused
      exact absurd refused.2.symm tried

/-- The finished calls are those that are over. -/
theorem finish_iff (life : Life order status actions) :
    (∃ purpose ending, .finish purpose ending ∈ actions) ↔
      ∃ ending moment, status = .finished ending moment := by
  cases life with
  | unstarted => simp
  | @dismissed remarks ending moment quiet reason =>
      exact iff_of_true ⟨order.purpose, ending, by simp⟩ ⟨ending, moment, rfl⟩
  | waiting accepted purpose quiet inner =>
      simp [not_mem_of_all quiet, not_mem_of_all inner]
  | @concluded remarks middle last catalog ending moment accepted quiet inner outer tried told =>
      exact iff_of_true ⟨order.purpose, ending, by simp⟩ ⟨ending, moment, rfl⟩

/-- A call that raised the flag and returned ended its session and then lowered the flag. -/
theorem returned (life : Life order status actions) (raised : .raiseFlag ∈ actions)
    {purpose : Purpose} {ending : Ending} (finished : .finish purpose ending ∈ actions) :
    ∃ before after, actions = before ++ .endSession :: after ∧ .lowerFlag ∈ after := by
  have purchase := (life.raiseFlag_iff.mp raised).1
  cases life with
  | unstarted => simp at raised
  | dismissed quiet reason => simp [not_mem_of_all quiet] at raised
  | waiting accepted purpose quiet inner =>
      simp [not_mem_of_all quiet, not_mem_of_all inner] at finished
  | @concluded remarks middle last _ whole _ accepted quiet inner outer tried told =>
      refine ⟨.begin :: (order.purpose.claim ++ remarks ++ .openSession :: middle),
        last ++ order.purpose.yield ++ [.finish order.purpose whole], by simp, ?_⟩
      simp [purchase]

theorem of_notStarted (life : Life order .notStarted actions) : actions = [] := by
  cases life
  rfl

/-- A purchase whose session is open raised the flag and did not return yet. -/
theorem holds_of_open {first second : List Action} (life : Life order status (first ++ second))
    (purchase : order.purpose = .purchase) (opened : .openSession ∈ first)
    (unended : .endSession ∉ first) :
    .raiseFlag ∈ first ∧ ∀ purpose ending, .finish purpose ending ∉ first := by
  generalize same : first ++ second = actions at life
  cases life with
  | unstarted => simp_all
  | dismissed quiet reason =>
      have none : .openSession ∉ first ++ second := by simp [same, not_mem_of_all quiet]
      exact absurd (List.mem_append_left second opened) none
  | @waiting remarks middle _ _ _ _ _ _ accepted purpose quiet inner =>
      have split : first ++ second =
          (.begin :: (order.purpose.claim ++ remarks)) ++ .openSession :: middle := by simp [same]
      obtain ⟨rest, rfl⟩ := split_of_mem split opened (by simp [not_mem_of_all quiet])
      refine ⟨by simp [purchase], fun whose ending member => ?_⟩
      have inside := List.mem_append_left second member
      rw [split] at inside
      simp [not_mem_of_all quiet, not_mem_of_all inner] at inside
  | @concluded remarks middle last _ ending _ accepted quiet inner outer tried told =>
      have split : first ++ second =
          (.begin :: (order.purpose.claim ++ remarks)) ++ .openSession ::
            (middle ++ .endSession :: (last ++ order.purpose.yield ++
              [.finish order.purpose ending])) := by simp [same]
      have early : first ++ second =
          (.begin :: (order.purpose.claim ++ remarks ++ .openSession :: middle)) ++
            .endSession :: (last ++ order.purpose.yield ++
              [.finish order.purpose ending]) := by simp [same]
      obtain ⟨missed, before⟩ := prefix_of_not_mem early unended
      obtain ⟨rest, rfl⟩ := split_of_mem split opened (by simp [not_mem_of_all quiet])
      refine ⟨by simp [purchase], fun whose ending member => ?_⟩
      have inside := List.mem_append_left missed member
      rw [← before] at inside
      simp [not_mem_of_all quiet, not_mem_of_all inner] at inside

/-- What a waiting call did. -/
theorem of_waiting {attempt : Attempt} {awaited : Awaited} {session since began : Nat}
    (life : Life order (.waiting attempt awaited session since began) actions) :
    attempt.purpose = order.purpose ∧ .openSession ∈ actions ∧ .endSession ∉ actions := by
  cases life with
  | waiting accepted purpose quiet inner =>
      simp [purpose, not_mem_of_all quiet, not_mem_of_all inner]

end Life

/-- How many stages are left in a stage, itself included. -/
def Stage.left : Stage → Nat
  | .connect => 3
  | .queryOffers => 2
  | .launchPurchase => 1

theorem Awaited.stage_left (awaited : Awaited) : awaited.stage.left = awaited.stagesLeft := by
  cases awaited <;> rfl

/-- A turn that leaves its call waiting ends with the question it waits for, and asks no other. -/
structure Turn.Asks (turn : Turn) (awaited : Awaited) (actions : List Action)
    (question : Question) : Prop where
  asks : turn.actions = actions ++ [.ask question]
  stage : question.stage = awaited.stage
  once : ∀ other, .ask other ∉ actions

theorem Order.FirstTurn.asks_last {order : Order} {busy : Bool} {turn : Turn}
    (form : order.FirstTurn busy turn) {attempt : Attempt} {awaited : Awaited}
    (waits : turn.rest = .waiting attempt awaited) :
    ∃ actions question, turn.Asks awaited actions question := by
  cases form with
  | @opened catalog remarks line accepted free quiet =>
      cases waits
      exact ⟨.begin :: (order.purpose.claim ++ remarks ++ [.openSession, .log line]), .setup,
        by simp, rfl, by simp [not_mem_of_all quiet]⟩
  | unread | empty | notSingle | refused => simp at waits

theorem Attempt.NextTurn.asks_last {attempt later : Attempt} {awaited ahead : Awaited} {turn : Turn}
    (form : attempt.NextTurn awaited turn) (waits : turn.rest = .waiting later ahead) :
    ahead.stagesLeft < awaited.stagesLeft ∧
      ∃ actions question, turn.Asks ahead actions question := by
  cases form with
  | @asks remarks question _ _ quiet same stage progress =>
      cases waits
      exact ⟨by omega, remarks, question, rfl, stage, by simp [not_mem_of_all quiet]⟩
  | succeeds | fails | cancelled => simp at waits

/-- A call asks at every stage once, one stage after the other. -/
theorem Story.asked {settings : Settings} {order : Order} {index : Nat} {status : Status}
    {deeds : List Deed} (story : Story settings order index status deeds) {attempt : Attempt}
    {awaited : Awaited} {session since began : Nat}
    (waits : status = .waiting attempt awaited session since began) {deed : Deed}
    (member : deed ∈ deeds) {question : Question} (asks : deed.action = .ask question) :
    awaited.stagesLeft ≤ question.stage.left := by
  have last : ∀ {turn : Turn} {scene : Scene} {actions : List Action} {awaited : Awaited}
      {final : Question}, turn.Asks awaited actions final → deed ∈ turn.deeds scene →
      awaited.stagesLeft ≤ question.stage.left := by
    intro turn scene actions awaited final does inTurn
    have asked := ((Turn.mem_deeds _ _).mp inTurn).2
    rw [asks, does.asks, List.mem_append, List.mem_singleton] at asked
    cases asked.resolve_left (does.once question)
    exact Nat.le_of_eq (by rw [does.stage, awaited.stage_left])
  induction story generalizing attempt awaited session since began with
  | unstarted => simp at waits
  | started now opened busy =>
      have form := order.start_firstTurn busy
      cases rest : (order.start busy).rest with
      | waiting later ahead =>
          obtain ⟨actions, final, does⟩ := form.asks_last rest
          simp only [rest, Rest.status, Status.waiting.injEq] at waits
          exact last (waits.2.1 ▸ does) member
      | finished ending => simp [rest, Rest.status] at waits
  | @reacted before current _ _ _ past turn now prior reaction inductionHypothesis =>
      cases rest : turn.rest with
      | waiting later ahead =>
          obtain ⟨fewer, actions, final, does⟩ := reaction.nextTurn.asks_last rest
          simp only [rest, Rest.status, Status.waiting.injEq] at waits
          obtain ⟨rfl, rfl, _⟩ := waits
          rcases List.mem_append.mp member with already | inTurn
          · exact Nat.le_trans (Nat.le_of_lt fewer) (inductionHypothesis rfl already)
          · exact last does inTurn
      | finished ending => simp [rest, Rest.status] at waits

/-- A first turn finishes a call the way it leaves it. -/
theorem Order.FirstTurn.finished_iff {order : Order} {busy : Bool} {turn : Turn}
    (form : order.FirstTurn busy turn) (ending : Ending) :
    turn.rest = .finished ending ↔ ∃ purpose, .finish purpose ending ∈ turn.actions := by
  cases form with
  | opened accepted free quiet => simp [not_mem_of_all quiet]
  | unread | empty | notSingle | refused => simp [eq_comm]

/-- A later turn finishes a call the way it leaves it. -/
theorem Attempt.NextTurn.finished_iff {attempt : Attempt} {awaited : Awaited} {turn : Turn}
    (form : attempt.NextTurn awaited turn) (ending : Ending) :
    turn.rest = .finished ending ↔ ∃ purpose, .finish purpose ending ∈ turn.actions := by
  cases form with
  | asks quiet same stage progress => simp [not_mem_of_all quiet]
  | @succeeds first outcome line speech =>
      have unfinished : ∀ purpose ending, .finish purpose ending ∉ first :=
        fun _ _ member => by simpa using speech _ member
      simp [unfinished, hangUp, Action.say, eq_comm]
  | fails quiet still tried =>
      simp [not_mem_of_all quiet, not_mem_of_all still, hangUp, Action.say, eq_comm]
  | cancelled => simp [hangUp, Action.say, eq_comm]

/-- A call ended the way it finished, and when. -/
theorem Story.finished_iff {settings : Settings} {order : Order} {index : Nat} {status : Status}
    {deeds : List Deed} (story : Story settings order index status deeds) (ending : Ending)
    (moment : Nat) :
    status = .finished ending moment ↔
      ∃ purpose, (moment, .finish purpose ending) ∈
        deeds.map fun deed => (deed.scene.now, deed.action) := by
  have inTurn : ∀ (turn : Turn) (scene : Scene),
      (turn.deeds scene).map (fun deed => (deed.scene.now, deed.action)) =
        turn.timed scene.now := by
    intro turn scene
    simp [Turn.deeds, Turn.timed, Function.comp_def]
  have left : ∀ (turn : Turn) (scene : Scene) (began : Nat),
      turn.rest.status scene began = .finished ending moment ↔
        moment = scene.now ∧ turn.rest = .finished ending := by
    intro turn scene began
    cases turn.rest <;> simp [Rest.status, and_comm, eq_comm]
  induction story with
  | unstarted => simp
  | started now session busy =>
      rw [inTurn, left, (order.start_firstTurn busy).finished_iff]
      simp [Turn.mem_timed]
  | reacted now prior reaction inductionHypothesis =>
      rw [List.map_append, inTurn, left, reaction.nextTurn.finished_iff]
      simp only [List.mem_append, exists_or, ← inductionHypothesis]
      simp [Turn.mem_timed]
namespace Timeline

variable {backend : Backend World Show Signal} {settings : Settings}
  {origin timeline : Timeline World Show Signal}

/-- Every call has a life, whatever the others do. -/
theorem Fresh.life (fresh : origin.Fresh) (reached : origin.Interleaves backend settings timeline)
    {index : Nat} {call : Call} (found : timeline.calls[index]? = some call) :
    Life call.order call.status (actionsOf index timeline.service.deeds) :=
  (fresh.story reached found).life

end Timeline

end Storefront
