import Storefront.Backend.Routed
import Storefront.Backend.Scripted
import Storefront.Proofs.Interleaving

/-!
# Runs end

A call can take four turns at most, and every moment of a run sees at least one turn taken
or one signal received. So the moments a run allows itself are enough, and when it stops
nothing is due anymore. What is left then is over, or waits for what never comes.
-/

namespace Storefront

variable {World Show Signal : Type}

/-- The backend keeps to the moments it names: an answer that is due at a moment is there
from then on, whatever else happened to the world. -/
def Backend.Honest (backend : Backend World Show Signal) : Prop :=
  ∀ {scene stage since present later moment},
    backend.due scene.session stage since present = some moment → moment ≤ scene.now →
      (backend.poll scene stage since later).1.isSome = true

theorem scripted_honest (scripts : List Script) (quiet : Bool) :
    (scripted scripts quiet).Honest := by
  intro scene stage since present later moment due inTime
  simp only [scripted] at due ⊢
  rw [due]
  simp [inTime]

/-- A routed backend names no moments. -/
theorem routed_honest (quiet : Bool) : (routed quiet).Honest := by
  intro scene stage since present later moment due
  simp [routed] at due

/-- How many turns a call can still take. -/
def Status.turnsLeft : Status → Nat
  | .notStarted => 4
  | .waiting _ awaited _ _ _ => awaited.stagesLeft
  | .finished .. => 0

theorem Awaited.stagesLeft_pos (awaited : Awaited) : 0 < awaited.stagesLeft := by
  cases awaited <;> simp [stagesLeft]

/-- A first turn is one of a call's four. -/
theorem Order.FirstTurn.turnsLeft_lt {order : Order} {busy : Bool} {turn : Turn}
    (form : order.FirstTurn busy turn) (scene : Scene) (began : Nat) :
    (turn.rest.status scene began).turnsLeft < 4 := by
  cases form <;> simp [Rest.status, Status.turnsLeft, Awaited.stagesLeft]

/-- A later turn is one of the call's turns left. -/
theorem Attempt.NextTurn.turnsLeft_lt {attempt : Attempt} {awaited : Awaited} {turn : Turn}
    (form : attempt.NextTurn awaited turn) (scene : Scene) (began : Nat) :
    (turn.rest.status scene began).turnsLeft < awaited.stagesLeft := by
  have some := awaited.stagesLeft_pos
  cases form with
  | asks quiet same stage progress =>
      simp only [Rest.status, Status.turnsLeft]
      omega
  | succeeds | fails | cancelled => simpa [Rest.status, Status.turnsLeft] using some

namespace Call

variable {backend : Backend World Show Signal} {settings : Settings} {now index : Nat}
  {call : Call}

/-- How many turns a call can still take. -/
def turnsLeft (call : Call) : Nat :=
  call.status.turnsLeft

@[simp] theorem take_turnsLeft (scene : Scene) (began : Nat) (turn : Turn)
    (service : Service World Show) :
    (call.take backend scene began turn service).1.turnsLeft =
      (turn.rest.status scene began).turnsLeft := by
  rw [take_eq, turnsLeft]

theorem begin_turnsLeft_lt {moment : Nat} (idle : call.status = .notStarted)
    (due : moment ≤ now) (service : Service World Show) :
    (call.begin backend now index (some moment) service).1.turnsLeft < call.turnsLeft := by
  rw [begin_due idle due, take_turnsLeft, turnsLeft, idle]
  exact (call.order.start_firstTurn _).turnsLeft_lt _ _

theorem begin_turnsLeft_le (start : Option Nat) (service : Service World Show) :
    (call.begin backend now index start service).1.turnsLeft ≤ call.turnsLeft := by
  by_cases due : call.status = .notStarted ∧ ∃ moment, start = some moment ∧ moment ≤ now
  · obtain ⟨idle, moment, rfl, due⟩ := due
    exact Nat.le_of_lt (begin_turnsLeft_lt idle due service)
  · by_cases idle : call.status = .notStarted
    · have early : ∀ moment ∈ start, now < moment := fun moment member =>
        Nat.lt_of_not_le fun inTime => due ⟨idle, moment, member, inTime⟩
      exact Nat.le_of_eq (by rw [begin_not_due early])
    · exact Nat.le_of_eq (by rw [begin_started idle])

section Waiting

variable {attempt : Attempt} {awaited : Awaited} {session since began : Nat}
  (waits : call.status = .waiting attempt awaited session since began)
include waits

theorem take_turnsLeft_lt {turn : Turn} (reaction : attempt.Reacts settings awaited turn)
    (scene : Scene) (service : Service World Show) :
    (call.take backend scene began turn service).1.turnsLeft < call.turnsLeft := by
  rw [take_turnsLeft, turnsLeft, waits]
  exact reaction.nextTurn.turnsLeft_lt _ _

theorem giveUp_turnsLeft_lt {patience : Nat} (limited : call.patience = some patience)
    (due : began + patience ≤ now) (service : Service World Show) :
    (call.giveUp backend now index service).1.turnsLeft < call.turnsLeft := by
  have cancels : attempt.Reacts {} awaited attempt.cancel := .cancelled
  rw [giveUp_due waits limited due]
  exact take_turnsLeft_lt waits cancels _ _

end Waiting

theorem giveUp_turnsLeft_le (service : Service World Show) :
    (call.giveUp backend now index service).1.turnsLeft ≤ call.turnsLeft := by
  unfold giveUp
  split
  · next attempt awaited session since began patience waits _ =>
    have cancels : attempt.Reacts {} awaited attempt.cancel := .cancelled
    split
    · exact Nat.le_of_lt (take_turnsLeft_lt waits cancels _ _)
    · exact Nat.le_refl _
  · exact Nat.le_refl _

theorem settle_turnsLeft_le (fuel : Nat) (service : Service World Show) :
    (call.settle backend settings now index fuel service).1.turnsLeft ≤ call.turnsLeft := by
  induction fuel generalizing call service with
  | zero => exact Nat.le_refl _
  | succ fuel inductionHypothesis =>
      cases waits : call.status with
      | waiting attempt awaited session since began =>
          cases answer : (service.poll backend ⟨now, index, session⟩ awaited.stage since).1 with
          | some response =>
              rw [settle_answered waits fuel answer]
              exact Nat.le_trans (inductionHypothesis _)
                (Nat.le_of_lt (take_turnsLeft_lt waits (.answered response) _ _))
          | none =>
              cases late : isLate since now settings.stageTimeout with
              | true =>
                  have expires : attempt.Reacts settings awaited
                      (attempt.expire settings awaited) := .expired
                  rw [settle_late waits fuel answer late]
                  exact Nat.le_of_lt (take_turnsLeft_lt waits expires _ _)
              | false =>
                  exact Nat.le_of_eq (by rw [settle_in_time waits fuel answer late])
      | notStarted =>
          exact Nat.le_of_eq (by rw [settle_not_waiting _ (by simp [waits])])
      | finished ending moment =>
          exact Nat.le_of_eq (by rw [settle_not_waiting _ (by simp [waits])])

/-- A call that is answered, or whose stage took too long, takes a turn. -/
theorem settle_turnsLeft_lt {attempt : Attempt} {awaited : Awaited} {session since began : Nat}
    (waits : call.status = .waiting attempt awaited session since began) (fuel : Nat)
    (service : Service World Show)
    (ready : (service.poll backend ⟨now, index, session⟩ awaited.stage since).1.isSome = true ∨
      isLate since now settings.stageTimeout = true) :
    (call.settle backend settings now index (fuel + 1) service).1.turnsLeft < call.turnsLeft := by
  cases answer : (service.poll backend ⟨now, index, session⟩ awaited.stage since).1 with
  | some response =>
      rw [settle_answered waits fuel answer]
      exact Nat.lt_of_le_of_lt (settle_turnsLeft_le fuel _)
        (take_turnsLeft_lt waits (.answered response) _ _)
  | none =>
      have expires : attempt.Reacts settings awaited (attempt.expire settings awaited) := .expired
      rw [settle_late waits fuel answer (by simpa [answer] using ready)]
      exact take_turnsLeft_lt waits expires _ _

theorem advance_turnsLeft_le (start : Option Nat) (service : Service World Show) :
    (call.advance backend settings now index start service).1.turnsLeft ≤ call.turnsLeft :=
  Nat.le_trans (giveUp_turnsLeft_le _)
    (Nat.le_trans (settle_turnsLeft_le 3 _) (begin_turnsLeft_le start service))

/-- A call that is due takes a turn when it is advanced. -/
theorem advance_turnsLeft_lt (honest : backend.Honest) {start : Option Nat} {world : World}
    {moment : Nat} (due : moment ∈ call.dues backend settings start world)
    (inTime : moment ≤ now) (service : Service World Show) :
    (call.advance backend settings now index start service).1.turnsLeft < call.turnsLeft := by
  unfold dues at due
  cases status : call.status with
  | notStarted =>
      simp only [status, Option.mem_toList] at due
      subst due
      exact Nat.lt_of_le_of_lt (giveUp_turnsLeft_le _)
        (Nat.lt_of_le_of_lt (settle_turnsLeft_le 3 _) (begin_turnsLeft_lt status inTime service))
  | waiting attempt awaited session since began =>
      simp only [status, List.mem_append, Option.mem_toList,
        Option.map_eq_some_iff] at due
      have begun : call.begin backend now index start service = (call, service) :=
        begin_started (by simp [status])
      rw [advance, begun]
      by_cases ready :
          (service.poll backend ⟨now, index, session⟩ awaited.stage since).1.isSome = true ∨
            isLate since now settings.stageTimeout = true
      · exact Nat.lt_of_le_of_lt (giveUp_turnsLeft_le _)
          (settle_turnsLeft_lt status 2 service ready)
      · obtain ⟨unanswered, early⟩ := not_or.mp ready
        rcases due with (expiry | answer) | ⟨patience, limited, rfl⟩
        · have late : isLate since now settings.stageTimeout = true := by
            simp [isLate, expiry, inTime]
          exact absurd late early
        · exact absurd (honest answer inTime) unanswered
        · have unsettled : call.settle backend settings now index 3 service = (call, _) :=
            settle_in_time status 2 (by simpa using unanswered) (Bool.eq_false_iff.mpr early)
          simp only [unsettled]
          exact giveUp_turnsLeft_lt status limited inTime _
  | finished ending ended => simp [status] at due

/-- A call that is over stays as it is. -/
theorem advance_finished {ending : Ending} {moment : Nat}
    (ends : call.status = .finished ending moment)
    (start : Option Nat) (service : Service World Show) :
    call.advance backend settings now index start service = (call, service) := by
  have waitsNot : ∀ attempt awaited session since began,
      call.status ≠ .waiting attempt awaited session since began := by simp [ends]
  rw [advance, begin_started (by simp [ends])]
  simp only [settle_not_waiting 3 waitsNot, giveUp_not_waiting waitsNot]

theorem ended?_eq_some {moment : Nat} :
    call.ended? = some moment ↔ ∃ ending, call.status = .finished ending moment := by
  unfold ended?
  cases call.status <;> simp

/-- What is due for a call stays due when its start becomes known. -/
theorem dues_known {start later : Option Nat} (known : ∀ moment ∈ start, later = some moment)
    {world : World} {moment : Nat} (due : moment ∈ call.dues backend settings start world) :
    moment ∈ call.dues backend settings later world := by
  unfold dues at due ⊢
  cases status : call.status with
  | notStarted =>
      simp only [status, Option.mem_toList] at due ⊢
      exact known moment due
  | waiting attempt awaited session since began => simpa only [status] using due
  | finished ending ended => simp [status] at due

end Call

namespace Timeline

theorem startOf_known {sequential : Bool} {before later : Option Nat}
    (known : ∀ ended ∈ before, later = some ended) (call : Call) :
    ∀ moment ∈ startOf sequential before call,
      startOf sequential later call = some moment := by
  intro moment start
  cases sequential with
  | false => exact start
  | true =>
      simp only [startOf, if_true, Option.mem_def, Option.map_eq_some_iff] at start ⊢
      obtain ⟨ended, ends, same⟩ := start
      exact ⟨ended, known ended ends, same⟩

section Advance

variable {backend : Backend World Show Signal} {settings : Settings} {sequential : Bool}
  {now : Nat}

/-- How many turns some calls can still take. -/
def turnsLeft : List Call → Nat
  | [] => 0
  | call :: calls => call.turnsLeft + turnsLeft calls

theorem advanceCalls_turnsLeft_le (index : Nat) (before : Option Nat) (calls : List Call)
    (service : Service World Show) :
    turnsLeft (advanceCalls backend settings sequential now index before calls service).1 ≤
      turnsLeft calls := by
  induction calls generalizing index before service with
  | nil => exact Nat.le_refl _
  | cons call calls inductionHypothesis =>
      simp only [advanceCalls, turnsLeft]
      exact Nat.add_le_add (call.advance_turnsLeft_le _ _) (inductionHypothesis _ _ _)

/-- If some call is due, some call takes a turn. A call that ended before still counts as
ended for the one after it. -/
theorem advanceCalls_turnsLeft_lt (honest : backend.Honest) {world : World} {moment : Nat}
    (inTime : moment ≤ now) (index : Nat) {before later : Option Nat}
    (known : ∀ ended ∈ before, later = some ended) (calls : List Call)
    (service : Service World Show)
    (due : moment ∈ callDues backend settings sequential world before calls) :
    turnsLeft (advanceCalls backend settings sequential now index later calls service).1 <
      turnsLeft calls := by
  induction calls generalizing index before later service with
  | nil => simp [callDues] at due
  | cons call calls inductionHypothesis =>
      simp only [callDues, List.mem_append] at due
      simp only [advanceCalls, turnsLeft]
      rcases due with due | due
      · have started : moment ∈
            call.dues backend settings (startOf sequential later call) world :=
          call.dues_known (startOf_known known call) due
        exact Nat.add_lt_add_of_lt_of_le (call.advance_turnsLeft_lt honest started inTime _)
          (advanceCalls_turnsLeft_le _ _ _ _)
      · refine Nat.add_lt_add_of_le_of_lt (call.advance_turnsLeft_le _ _)
          (inductionHypothesis _ (fun ended ends => ?_) _ due)
        obtain ⟨ending, status⟩ := call.ended?_eq_some.mp ends
        rw [call.advance_finished status]
        exact ends

end Advance

variable {backend : Backend World Show Signal} {settings : Settings} {now : Nat}
  {timeline : Timeline World Show Signal}

/-- How much of a timeline is still to come: turns of calls and signals. -/
def ahead (timeline : Timeline World Show Signal) : Nat :=
  turnsLeft timeline.calls + timeline.signals.length

theorem ahead_le_moments : timeline.ahead ≤ timeline.moments := by
  have each : ∀ calls : List Call, turnsLeft calls ≤ 5 * calls.length := by
    intro calls
    induction calls with
    | nil => simp [turnsLeft]
    | cons call calls inductionHypothesis =>
        have most : call.turnsLeft ≤ 4 := by
          unfold Call.turnsLeft
          cases call.status with
          | notStarted => simp [Status.turnsLeft]
          | waiting _ awaited => cases awaited <;> simp [Status.turnsLeft, Awaited.stagesLeft]
          | finished => simp [Status.turnsLeft]
        simp only [turnsLeft, List.length_cons] at *
        omega
  have calls := each timeline.calls
  unfold ahead moments
  omega

theorem advance_ahead_le : (timeline.advance backend settings now).ahead ≤ timeline.ahead :=
  Nat.add_le_add_right (advanceCalls_turnsLeft_le _ _ _ _) _

theorem receive_ahead_le : (timeline.receive backend now).ahead ≤ timeline.ahead :=
  Nat.add_le_add_left (List.dropWhile_sublist _).length_le _

/-- A signal that is due is received. -/
theorem receive_ahead_lt {moment : Nat} (due : timeline.signals.head?.map (·.1) = some moment)
    (inTime : moment ≤ now) : (timeline.receive backend now).ahead < timeline.ahead := by
  obtain ⟨signal, first, rfl⟩ := Option.map_eq_some_iff.mp due
  obtain ⟨rest, split⟩ := List.head?_eq_some_iff.mp first
  have shorter : (timeline.receive backend now).signals.length < timeline.signals.length := by
    rw [receive, split, List.dropWhile_cons_of_pos (by simpa using inTime), List.length_cons]
    exact Nat.lt_succ_of_le (List.dropWhile_sublist _).length_le
  exact Nat.add_lt_add_left shorter _

/-- At every moment of a run something happens. -/
theorem moment_ahead_lt (honest : backend.Honest)
    (next : timeline.next? backend settings = some now) :
    (timeline.moment backend settings now).ahead < timeline.ahead := by
  have due := List.min?_mem next
  rw [List.mem_append] at due
  unfold moment
  apply Nat.lt_of_le_of_lt advance_ahead_le
  rcases due with call | signal
  · apply Nat.lt_of_le_of_lt receive_ahead_le
    exact Nat.add_lt_add_right (advanceCalls_turnsLeft_lt honest (Nat.le_refl now) 0
      (fun ended same => same) timeline.calls timeline.service call) _
  · exact Nat.lt_of_lt_of_le (receive_ahead_lt (by simpa [advance] using signal) (Nat.le_refl now))
      advance_ahead_le

/-- A run stops only when nothing is due anymore. -/
theorem run_stops (honest : backend.Honest) (timeline : Timeline World Show Signal) :
    (timeline.run backend settings).next? backend settings = none := by
  have enough : ∀ (fuel : Nat) (timeline : Timeline World Show Signal), timeline.ahead ≤ fuel →
      (timeline.runFor backend settings fuel).next? backend settings = none := by
    intro fuel
    induction fuel with
    | zero =>
        intro timeline left
        rw [runFor]
        cases next : timeline.next? backend settings with
        | none => rfl
        | some now =>
            have less := moment_ahead_lt honest next
            omega
    | succ fuel inductionHypothesis =>
        intro timeline left
        rw [runFor]
        cases next : timeline.next? backend settings with
        | none => exact next
        | some now =>
            have less := moment_ahead_lt honest next
            exact inductionHypothesis _ (by omega)
  exact enough _ timeline ahead_le_moments

end Timeline

/-- A call that nothing will ever move on: its stage is not going to be answered and has no
time limit, and its caller does not give up. That a timeout beyond `longestTimeout` is no limit is
what `deadline` assumes of the clock. Where the clock takes it for one of many years, a call
waits for those years and is not stranded. -/
def Call.Stranded (backend : Backend World Show Signal) (settings : Settings) (world : World)
    (call : Call) : Prop :=
  ∃ attempt awaited session since began,
    call.status = .waiting attempt awaited session since began ∧
      backend.due session awaited.stage since world = none ∧
      longestTimeout < settings.stageTimeout.seconds ∧ call.patience = none

/-- A waiting call for which nothing is due is stranded. -/
theorem Call.stranded_of_dues {backend : Backend World Show Signal} {settings : Settings}
    {world : World} {call : Call} {start : Option Nat} {attempt : Attempt} {awaited : Awaited}
    {session since began : Nat}
    (waits : call.status = .waiting attempt awaited session since began)
    (nothing : call.dues backend settings start world = []) :
    call.Stranded backend settings world := by
  simp only [dues, waits, List.append_eq_nil_iff, Option.toList_eq_nil_iff,
    Option.map_eq_none_iff] at nothing
  obtain ⟨⟨unlimited, unanswered⟩, patient⟩ := nothing
  refine ⟨attempt, awaited, session, since, began, waits, unanswered, ?_, patient⟩
  unfold deadline at unlimited
  split at unlimited
  · simp at unlimited
  · next beyond => omega

namespace Timeline

variable {backend : Backend World Show Signal} {settings : Settings}

/-- What is left when nothing is due anymore: a call is over, or stranded, or put off until
one that is stranded is over. -/
structure Drained (backend : Backend World Show Signal) (settings : Settings)
    (timeline : Timeline World Show Signal) : Prop where
  left : ∀ {index : Nat} {call : Call}, timeline.calls[index]? = some call →
    call.isOver = true ∨ call.Stranded backend settings timeline.service.world ∨
      call.status = .notStarted ∧ timeline.sequential = true ∧
        ∃ (earlier : Nat) (first : Call), earlier < index ∧
          timeline.calls[earlier]? = some first ∧
          first.Stranded backend settings timeline.service.world
  /-- With a time limit on every stage all calls are over. -/
  limited : settings.stageTimeout.seconds ≤ longestTimeout →
    ∀ call ∈ timeline.calls, call.isOver = true
  received : timeline.signals = []

/-- The calls of a list for which nothing is due. -/
theorem left_of_callDues {sequential : Bool} {world : World} {before : Option Nat}
    {calls : List Call}
    (nothing : callDues backend settings sequential world before calls = []) {index : Nat}
    {call : Call} (found : calls[index]? = some call) :
    call.isOver = true ∨ call.Stranded backend settings world ∨
      call.status = .notStarted ∧ sequential = true ∧
        (before = none ∨ ∃ earlier first, earlier < index ∧ calls[earlier]? = some first ∧
          first.Stranded backend settings world) := by
  induction calls generalizing before index with
  | nil => simp at found
  | cons head calls inductionHypothesis =>
      simp only [callDues, List.append_eq_nil_iff] at nothing
      have first : head.isOver = true ∨ head.Stranded backend settings world ∨
          head.status = .notStarted ∧ sequential = true ∧ before = none := by
        cases status : head.status with
        | finished ending moment => exact .inl (by simp [Call.isOver, status])
        | waiting attempt awaited session since began =>
            exact .inr (.inl (Call.stranded_of_dues status nothing.1))
        | notStarted =>
            have unknown := nothing.1
            simp only [Call.dues, status, Option.toList_eq_nil_iff, startOf] at unknown
            cases sequential with
            | false => simp at unknown
            | true => exact .inr (.inr ⟨rfl, rfl, by simpa using unknown⟩)
      cases index with
      | zero =>
          obtain rfl : head = call := by simpa using found
          rcases first with ends | stranded | ⟨idle, inOrder, behind⟩
          · exact .inl ends
          · exact .inr (.inl stranded)
          · exact .inr (.inr ⟨idle, inOrder, .inl behind⟩)
      | succ index =>
          rw [List.getElem?_cons_succ] at found
          refine (inductionHypothesis nothing.2 found).imp_right (Or.imp_right ?_)
          rintro ⟨idle, inOrder, behind | ⟨earlier, other, before, isThere, stranded⟩⟩
          · refine ⟨idle, inOrder, ?_⟩
            rcases first with ends | stranded | ⟨_, _, none⟩
            · cases status : head.status <;> simp_all [Call.isOver, Call.ended?]
            · exact .inr ⟨0, head, by omega, rfl, stranded⟩
            · exact .inl none
          · exact ⟨idle, inOrder, .inr ⟨earlier + 1, other, by omega, isThere, stranded⟩⟩

/-- A run of an honest backend leaves nothing undone that could be done. -/
theorem run_drained (honest : backend.Honest) (timeline : Timeline World Show Signal) :
    (timeline.run backend settings).Drained backend settings := by
  have stops : (timeline.run backend settings).next? backend settings = none :=
    run_stops honest timeline
  generalize timeline.run backend settings = final at stops
  rw [next?, List.min?_eq_none_iff, List.append_eq_nil_iff] at stops
  obtain ⟨idle, quiet⟩ := stops
  have left {index : Nat} {call : Call} (found : final.calls[index]? = some call) :
      call.isOver = true ∨ call.Stranded backend settings final.service.world ∨
        call.status = .notStarted ∧ final.sequential = true ∧
          ∃ (earlier : Nat) (first : Call), earlier < index ∧
            final.calls[earlier]? = some first ∧
            first.Stranded backend settings final.service.world := by
    refine (left_of_callDues idle found).imp_right (Or.imp_right ?_)
    exact fun ⟨idle, inOrder, behind⟩ => ⟨idle, inOrder, behind.resolve_left (by simp)⟩
  have limits {call : Call} (stranded : call.Stranded backend settings final.service.world) :
      longestTimeout < settings.stageTimeout.seconds := by
    obtain ⟨_, _, _, _, _, _, _, unlimited, _⟩ := stranded
    exact unlimited
  refine ⟨left, fun limited call member => ?_, by simpa using quiet⟩
  obtain ⟨index, found⟩ := List.getElem?_of_mem member
  rcases left found with ends | stranded | ⟨_, _, _, first, _, _, stranded⟩
  · exact ends
  · exact absurd (limits stranded) (by omega)
  · exact absurd (limits stranded) (by omega)

end Timeline

end Storefront
