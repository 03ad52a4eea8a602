import Storefront.Proofs.Beats

/-!
# Giving up on a call

A call that is given up on does until then what it would have done anyway. `Order.beats_limited`
compares the turns of a call whose caller gives up with those of the same call and a caller who
does not: the first are the second up to the moment of giving up, and one that ends the session
if the call is not over by then. `Call.cancelled_cleanly` reads this off the journals of the two.
-/

namespace Storefront

/-! ## The turn that comes next -/

theorem earlier_none (first : Option (Nat × Turn)) : earlier first none = first := by
  cases first <;> rfl

theorem earlier_assoc (first second third : Option (Nat × Turn)) :
    earlier first (earlier second third) = earlier (earlier first second) third := by
  cases first with
  | none => rfl
  | some one =>
      cases second with
      | none => rfl
      | some two =>
          cases third with
          | none => rw [earlier_none, earlier_none]
          | some three =>
              by_cases sooner : one.1 ≤ two.1
              · by_cases before : two.1 ≤ three.1
                · have least : one.1 ≤ three.1 := Nat.le_trans sooner before
                  simp [earlier, sooner, before, least]
                · simp [earlier, sooner, before]
              · by_cases before : two.1 ≤ three.1
                · simp [earlier, sooner, before]
                · have least : ¬ one.1 ≤ three.1 := by omega
                  simp [earlier, sooner, before, least]

namespace Attempt

variable {settings : Settings} {script : Script} {patience : Option Nat} {began since : Nat}
  {attempt : Attempt} {awaited : Awaited}

/-- A caller who gives up adds one turn that may come next, after all others of its moment. -/
theorem upcoming_limited (limit : Nat) :
    attempt.upcoming? settings script (some limit) began since awaited =
      earlier (attempt.upcoming? settings script none began since awaited)
        (some (max since (began + limit), attempt.cancel)) := by
  simp only [upcoming?, Option.map_none, Option.map_some, earlier_none, earlier_assoc]

section Next

variable {now : Nat} {turn : Turn}
  (next : attempt.upcoming? settings script patience began since awaited = some (now, turn))
include next

/-- The turn that comes next is a reaction, and time does not go back for it. -/
theorem upcoming_reacts : attempt.Reacts settings awaited turn ∧ since ≤ now := by
  unfold upcoming? at next
  rcases earlier_mem next with answered | other
  · obtain ⟨moment, due, same⟩ := Option.map_eq_some_iff.mp answered
    cases same
    exact ⟨.answered _, Cue.since_le_due due⟩
  · rcases earlier_mem other with expired | cancelled
    · obtain ⟨moment, expiry, same⟩ := Option.map_eq_some_iff.mp expired
      cases same
      exact ⟨.expired, Nat.le_max_left ..⟩
    · obtain ⟨limit, limited, same⟩ := Option.map_eq_some_iff.mp cancelled
      cases same
      exact ⟨.cancelled, Nat.le_max_left ..⟩

end Next

/-- Something comes by the moment an answer is due. -/
theorem upcoming_by_due {moment : Nat} (due : (script.cue awaited.stage).due since = some moment) :
    ∃ next ∈ attempt.upcoming? settings script patience began since awaited, next.1 ≤ moment := by
  apply earlier_by
  exact .inl ⟨_, by simp only [due]; rfl, Nat.le_refl moment⟩

/-- What an attempt does when it is cancelled depends on its purpose alone. -/
theorem cancel_congr {later : Attempt} (same : later.purpose = attempt.purpose) :
    later.cancel = attempt.cancel := by
  simp only [cancel, release_eq_yield, same]

/-! ## The turns still to come -/

/-- A turn still to come is the next one, or it comes after that. -/
theorem beats_cases {stages : Nat} {beat : Beat}
    (member : beat ∈ attempt.beats settings script patience began (stages + 1) since awaited) :
    ∃ now turn,
      attempt.upcoming? settings script patience began since awaited = some (now, turn) ∧
        (beat.now = now ∧ beat.turn = turn ∨ ∃ later ahead, turn.rest = .waiting later ahead ∧
          beat ∈ later.beats settings script patience began stages now ahead) := by
  rw [beats] at member
  split at member
  · simp at member
  · next now turn next =>
    refine ⟨now, turn, next, ?_⟩
    rcases List.mem_cons.mp member with rfl | after
    · exact .inl ⟨rfl, rfl⟩
    · split at after
      · next later ahead rest => exact .inr ⟨later, ahead, rest, after⟩
      · simp at after

/-- What holds of all reactions holds of the turns still to come. -/
theorem beats_all {motive : Turn → Prop}
    (reacts : ∀ (attempt : Attempt) (awaited : Awaited) (turn : Turn),
      attempt.Reacts settings awaited turn → motive turn) (stages : Nat) :
    ∀ beat ∈ attempt.beats settings script patience began stages since awaited,
      motive beat.turn := by
  induction stages generalizing since attempt awaited with
  | zero => simp [beats]
  | succ stages inductionHypothesis =>
      intro beat member
      obtain ⟨now, turn, next, ⟨_, rfl⟩ | ⟨later, ahead, _, after⟩⟩ := beats_cases member
      · exact reacts _ _ _ (upcoming_reacts next).1
      · exact inductionHypothesis beat after

/-- No turn still to come is over yet. -/
theorem beats_since (stages : Nat) :
    ∀ beat ∈ attempt.beats settings script patience began stages since awaited,
      since ≤ beat.now := by
  induction stages generalizing since attempt awaited with
  | zero => simp [beats]
  | succ stages inductionHypothesis =>
      intro beat member
      obtain ⟨now, turn, next, ⟨rfl, _⟩ | ⟨later, ahead, _, after⟩⟩ := beats_cases member
      · exact (upcoming_reacts next).2
      · exact Nat.le_trans (upcoming_reacts next).2 (inductionHypothesis beat after)

/-- If the next turn comes only after a moment, all turns do. -/
theorem beats_after {moment : Nat}
    (late : ∀ next ∈ attempt.upcoming? settings script patience began since awaited,
      moment < next.1) (stages : Nat) :
    ∀ beat ∈ attempt.beats settings script patience began stages since awaited,
      moment < beat.now := by
  cases stages with
  | zero => simp [beats]
  | succ stages =>
      intro beat member
      obtain ⟨now, turn, next, ⟨rfl, _⟩ | ⟨later, ahead, _, after⟩⟩ := beats_cases member
      · exact late _ next
      · exact Nat.lt_of_lt_of_le (late _ next) (beats_since stages beat after)

end Attempt

/-- Some turn by a moment ends the call. -/
def EndsBy (moment : Nat) (beats : List Beat) : Prop :=
  ∃ beat ∈ beats, beat.now ≤ moment ∧ ∃ ending, beat.turn.rest = .finished ending

/-- How the turns of a call that is given up on at a moment compare to those of a call that is
not: if that one is over by then, they are the same. Otherwise they are the same up to then, and
the turn of giving up comes after them. -/
inductive Limited (moment : Nat) (cancel : Turn) (patient : List Beat) : List Beat → Prop where
  | whole (ends : EndsBy moment patient) : Limited moment cancel patient patient
  | cut (unended : ¬ EndsBy moment patient) :
      Limited moment cancel patient
        (patient.filter (·.now ≤ moment) ++ [⟨moment, [], cancel⟩])

/-- A turn that does not end the call changes nothing about how it is given up on later. -/
theorem Limited.cons {moment : Nat} {cancel : Turn} {patient hasty : List Beat} {beat : Beat}
    (limited : Limited moment cancel patient hasty) (early : beat.now ≤ moment)
    (goesOn : ∀ ending, beat.turn.rest ≠ .finished ending) :
    Limited moment cancel (beat :: patient) (beat :: hasty) := by
  cases limited with
  | whole ends =>
      obtain ⟨last, member, rest⟩ := ends
      exact .whole ⟨last, List.mem_cons_of_mem _ member, rest⟩
  | cut unended =>
      have still : ¬ EndsBy moment (beat :: patient) := by
        rintro ⟨last, member, inTime, ending, ends⟩
        rcases List.mem_cons.mp member with rfl | later
        · exact goesOn ending ends
        · exact unended ⟨last, later, inTime, ending, ends⟩
      have same : Limited moment cancel _ _ := .cut still
      rwa [List.filter_cons_of_pos (by simpa using early), List.cons_append] at same

/-- A turn that ends the call by then is the last, whoever gives up. -/
theorem Limited.last {moment : Nat} {cancel : Turn} {beat : Beat} (early : beat.now ≤ moment)
    {ending : Ending} (ends : beat.turn.rest = .finished ending) :
    Limited moment cancel [beat] [beat] :=
  .whole ⟨beat, List.mem_singleton_self beat, early, ending, ends⟩

/-- If all turns come after the moment of giving up, that is the only turn. -/
theorem Limited.none {moment : Nat} {cancel : Turn} {patient : List Beat}
    (late : ∀ beat ∈ patient, moment < beat.now) :
    Limited moment cancel patient [⟨moment, [], cancel⟩] := by
  have unended : ¬ EndsBy moment patient := by
    rintro ⟨beat, member, inTime, _⟩
    exact absurd (late beat member) (Nat.not_lt.mpr inTime)
  have dropped : patient.filter (·.now ≤ moment) = [] := by
    apply List.filter_eq_nil_iff.mpr
    intro beat member
    simpa using late beat member
  have same : Limited moment cancel _ _ := .cut unended
  rwa [dropped, List.nil_append] at same

/-- Giving up on a call that is over changes nothing. -/
theorem Limited.of_ends {moment : Nat} {cancel : Turn} {patient hasty : List Beat}
    (limited : Limited moment cancel patient hasty) (ends : EndsBy moment patient) :
    hasty = patient := by
  cases limited with
  | whole => rfl
  | cut unended => exact absurd ends unended

/-- Giving up on a call that is not over is its last turn. -/
theorem Limited.of_unended {moment : Nat} {cancel : Turn} {patient hasty : List Beat}
    (limited : Limited moment cancel patient hasty) (unended : ¬ EndsBy moment patient) :
    hasty = patient.filter (·.now ≤ moment) ++ [⟨moment, [], cancel⟩] := by
  cases limited with
  | whole ends => exact absurd ends unended
  | cut => rfl

section Limited

variable {settings : Settings} {script : Script}

/-- How the turns of a waiting attempt compare that is given up on. -/
theorem Attempt.beats_limited {began limit stages since : Nat} {attempt : Attempt}
    {awaited : Awaited} (enough : awaited.stagesLeft ≤ stages) (early : since ≤ began + limit) :
    Limited (began + limit) attempt.cancel
      (attempt.beats settings script none began stages since awaited)
      (attempt.beats settings script (some limit) began stages since awaited) := by
  induction stages generalizing since attempt awaited with
  | zero =>
      have some := awaited.stagesLeft_pos
      omega
  | succ stages inductionHypothesis =>
      have now : max since (began + limit) = began + limit := by omega
      have limited : attempt.upcoming? settings script (some limit) began since awaited = _ :=
        upcoming_limited limit
      rw [now] at limited
      -- Either a turn comes by the moment of giving up, or that is the one to come.
      by_cases inTime : ∃ next ∈ attempt.upcoming? settings script none began since awaited,
          next.1 ≤ began + limit
      · obtain ⟨⟨moment, turn⟩, next, inTime⟩ := inTime
        rw [Option.mem_def.mp next, earlier_first (by simpa using inTime)] at limited
        rw [beats, beats, limited, Option.mem_def.mp next]
        have form := (upcoming_reacts next).1.nextTurn
        cases form with
        | @asks _ _ later ahead quiet same stage progress =>
            have fewer : ahead.stagesLeft ≤ stages := by omega
            have rest : Limited (began + limit) later.cancel
                (later.beats settings script none began stages moment ahead) _ :=
              inductionHypothesis fewer inTime
            rw [cancel_congr same] at rest
            exact rest.cons inTime (by simp)
        | succeeds | fails | cancelled => exact .last inTime rfl
      · have late : ∀ next ∈ attempt.upcoming? settings script none began since awaited,
            began + limit < next.1 := fun next member =>
          Nat.lt_of_not_le fun due => inTime ⟨next, member, due⟩
        have unheard : ∀ moment ∈ (script.cue awaited.stage).due since,
            began + limit < moment := by
          intro moment due
          obtain ⟨next, member, first⟩ : ∃ next ∈ attempt.upcoming? settings script none began
              since awaited, next.1 ≤ moment := upcoming_by_due due
          exact Nat.lt_of_lt_of_le (late next member) first
        rw [earlier_second late] at limited
        have last : attempt.beats settings script (some limit) began (stages + 1) since awaited =
            [⟨began + limit, [], attempt.cancel⟩] := by
          rw [beats, limited]
          simp only [Cue.linesAt_early unheard, cancel_finished]
        rw [last]
        exact .none (beats_after late _)

/-- The turn of giving up on a call. -/
def Order.cancel (order : Order) : Turn :=
  ⟨Attempt.hangUp ++ order.purpose.yield ++ [.finish order.purpose .cancelled],
    .finished .cancelled⟩

/-- How the turns of a call compare that is given up on. -/
theorem Order.beats_limited (settings : Settings) (script : Script) (order : Order)
    (began limit : Nat) :
    Limited (began + limit) order.cancel (order.beats settings script none began)
      (order.beats settings script (some limit) began) := by
  have early : began ≤ began + limit := Nat.le_add_right ..
  have form := order.start_firstTurn false
  unfold Order.beats
  generalize order.start false = first at form ⊢
  cases form with
  | @opened catalog remarks line accepted free quiet =>
      let attempt : Attempt := ⟨order.purpose, catalog, order.presentation, .connecting⟩
      have cancels : attempt.cancel = order.cancel := by
        simp only [Attempt.cancel, Attempt.release_eq_yield, Order.cancel, attempt]
      have rest : Limited (began + limit) attempt.cancel
          (attempt.beats settings script none began 3 began .setup) _ :=
        Attempt.beats_limited (Nat.le_refl 3) early
      rw [cancels] at rest
      exact rest.cons early (by simp)
  | unread | empty | notSingle | refused => exact .last early rfl

end Limited

/-! ## What turns leave in the journal -/

theorem Action.entries_now {quiet : Bool} {scene : Scene} {action : Action} :
    ∀ entry ∈ action.entries quiet scene, entry.now = scene.now := by
  simp [entries]

/-- A turn leaves all it leaves in the journal at its moment. -/
theorem Beat.entries_now {quiet : Bool} {beat : Beat} :
    ∀ entry ∈ beat.entries quiet, entry.now = beat.now := by
  intro entry member
  rcases List.mem_append.mp member with logged | acted
  · obtain ⟨line, _, rfl⟩ := List.mem_map.mp logged
    rfl
  · obtain ⟨action, _, left⟩ := List.mem_flatMap.mp acted
    exact Action.entries_now entry left

/-- What is journaled by a moment is left by the turns up to then. -/
theorem journalOf_filter (quiet : Bool) (moment : Nat) (beats : List Beat) :
    (journalOf quiet beats).filter (·.now ≤ moment) =
      journalOf quiet (beats.filter (·.now ≤ moment)) := by
  induction beats with
  | nil => rfl
  | cons beat beats inductionHypothesis =>
      rw [journalOf_cons, List.filter_append, inductionHypothesis]
      by_cases early : beat.now ≤ moment
      · have all : (beat.entries quiet).filter (·.now ≤ moment) = beat.entries quiet := by
          apply List.filter_eq_self.mpr
          intro entry member
          simpa [Beat.entries_now entry member] using early
        rw [all, List.filter_cons_of_pos (by simpa using early), journalOf_cons]
      · have nothing : (beat.entries quiet).filter (·.now ≤ moment) = [] := by
          apply List.filter_eq_nil_iff.mpr
          intro entry member
          simpa [Beat.entries_now entry member] using early
        rw [nothing, List.filter_cons_of_neg (by simpa using early), List.nil_append]

@[simp] theorem journalOf_append (quiet : Bool) (before after : List Beat) :
    journalOf quiet (before ++ after) = journalOf quiet before ++ journalOf quiet after :=
  List.flatMap_append ..

theorem Action.entries_deeds (quiet : Bool) (scene : Scene) (action : Action) :
    (action.entries quiet scene).filterMap Entry.deed? = [⟨scene, action⟩] := by
  simp [entries]

/-- The deeds among what turns leave in the journal are those of the turns. -/
theorem journalOf_deeds (quiet : Bool) (beats : List Beat) :
    (journalOf quiet beats).filterMap Entry.deed? =
      beats.flatMap fun beat => beat.turn.deeds ⟨beat.now, 0, 1⟩ := by
  induction beats with
  | nil => rfl
  | cons beat beats inductionHypothesis =>
      have logs : (loggedAt ⟨beat.now, 0, 1⟩ beat.lines).filterMap Entry.deed? = [] := by
        simp [loggedAt]
      rw [journalOf_cons, List.filterMap_append, inductionHypothesis, List.flatMap_cons,
        Beat.entries, List.filterMap_append, logs, List.nil_append, List.filterMap_flatMap]
      simp only [Action.entries_deeds]
      rw [Turn.deeds, List.map_eq_flatMap]

/-! ## Verdicts -/

/-- Whether an action tells what an attempt came to. -/
def Action.IsVerdict : Action → Prop
  | .deliver _ | .report _ => True
  | .log line => ∃ state : State,
      line = ⟨.debug, "reconciliation finished in state " ++ state.name⟩
  | _ => False

/-- A line that begins otherwise is no verdict. -/
theorem not_isVerdict_of_head {level : Level} {text : String}
    (other : text.toList.head? ≠ some 'r') : ¬ (Action.say level text).IsVerdict := by
  rintro ⟨state, same⟩
  have text := congrArg LogLine.text same
  simp only at text
  simp [text] at other

/-- A line that is not for debugging is no verdict. -/
theorem not_isVerdict_of_level {line : LogLine} (other : line.level ≠ .debug) :
    ¬ (Action.log line).IsVerdict := by
  rintro ⟨state, rfl⟩
  exact other rfl

theorem State.apply_level (state : State) (event : Event) :
    (state.apply event).2.level ≠ .debug := by
  unfold State.apply
  split <;> simp

/-- The turn tells no verdict. -/
def Turn.Unspoken (turn : Turn) : Prop :=
  ∀ action ∈ turn.actions, ¬ action.IsVerdict

/-- Actions that tell no verdict can be put before a turn. -/
theorem Turn.Unspoken.after {turn : Turn} (unspoken : turn.Unspoken) {actions : List Action}
    (silent : ∀ action ∈ actions, ¬ action.IsVerdict) : (turn.after actions).Unspoken := by
  intro action member
  rcases List.mem_append.mp member with before | inTurn
  · exact silent action before
  · exact unspoken action inTurn

namespace Attempt

variable {settings : Settings} {attempt : Attempt}

theorem move_unspoken (attempt : Attempt) (event : Event) :
    ¬ (attempt.move event).2.IsVerdict :=
  not_isVerdict_of_level (State.apply_level _ _)

theorem requested_unspoken (attempt : Attempt) (response : Billing.Response) :
    ∀ action ∈ (attempt.requested response).2, ¬ action.IsVerdict := by
  intro action member
  unfold requested at member
  split at member
  · obtain ⟨record, _, rfl⟩ := List.mem_map.mp member
    exact not_isVerdict_of_level (by simp)
  · obtain rfl := List.mem_singleton.mp member
    exact not_isVerdict_of_level (by simp)

theorem query_unspoken (settings : Settings) (attempt : Attempt) :
    (attempt.query settings).Unspoken := by
  intro action member
  simp only [query, List.mem_cons, List.not_mem_nil, or_false] at member
  rcases member with rfl | rfl | rfl
  · exact attempt.move_unspoken .connected
  · exact not_isVerdict_of_head (by simp)
  · exact id

theorem launch_unspoken (attempt : Attempt) (record : Billing.Sku) :
    (attempt.launch [record]).Unspoken := by
  intro action member
  simp only [launch, List.mem_cons, List.not_mem_nil, or_false] at member
  rcases member with rfl | rfl
  · exact attempt.move_unspoken .offerSelected
  · exact id

/-- A turn that tells a verdict ends its call. -/
theorem Reacts.unspoken {awaited : Awaited} {turn : Turn}
    (reaction : attempt.Reacts settings awaited turn) :
    turn.Unspoken ∨ ∃ ending, turn.rest = .finished ending := by
  cases rest : turn.rest with
  | finished ending => exact .inr ⟨ending, rfl⟩
  | waiting later ahead =>
      refine .inl ?_
      cases reaction with
      | expired => simp [expire, conclude, Turn.after] at rest
      | cancelled => simp [cancel] at rest
      | answered response =>
          obtain ⟨_, ⟨_, same⟩ | ⟨_, _, record, _, same⟩⟩ := resume_waits rest
          · exact same ▸ attempt.query_unspoken settings
          · have dropped := attempt.requested_unspoken response
            exact same ▸ (attempt.launch_unspoken record).after dropped

theorem connect_unspoken (attempt : Attempt) : attempt.connect.Unspoken := by
  intro action member
  simp only [connect, List.mem_cons, List.not_mem_nil, or_false] at member
  rcases member with rfl | rfl | rfl
  · exact id
  · exact attempt.move_unspoken .begin
  · exact id

end Attempt

/-- A first turn that tells a verdict ends its call. -/
theorem Order.start_unspoken (order : Order) (busy : Bool) :
    (order.start busy).Unspoken ∨ ∃ ending, (order.start busy).rest = .finished ending := by
  have begins : ∀ action ∈ [Action.begin], ¬ action.IsVerdict := by simp [Action.IsVerdict]
  cases read : order.wanted.read with
  | error violation => exact .inr ⟨_, by simp only [start, read]; rfl⟩
  | ok catalog =>
      cases purpose : order.purpose with
      | lookup =>
          simp only [start, read, purpose, lookUp]
          split
          · exact .inr ⟨_, rfl⟩
          · refine .inl (((Attempt.connect_unspoken _).after ?_).after begins)
            split
            · simpa using not_isVerdict_of_head (by simp)
            · simp
      | purchase =>
          simp only [start, read, purpose, buy]
          split
          · exact .inr ⟨_, rfl⟩
          · split
            · exact .inr ⟨_, rfl⟩
            · refine .inl (((Attempt.connect_unspoken _).after ?_).after begins)
              simp [Action.IsVerdict]

theorem Order.cancel_unspoken (order : Order) : order.cancel.Unspoken := by
  intro action member
  simp only [cancel, Attempt.hangUp, List.mem_append, List.mem_cons, List.not_mem_nil, or_false,
    Purpose.mem_yield] at member
  rcases member with ((rfl | rfl) | ⟨_, rfl⟩) | rfl
  · exact not_isVerdict_of_head (by simp)
  · exact id
  · exact id
  · exact id

/-- Whether a line of the journal tells what an attempt came to. -/
def Happening.IsVerdict : Happening Recorded → Prop
  | .did action => action.IsVerdict
  | .showed (.delivered _) | .showed (.reported _) => True
  | .showed _ => False

/-- A turn that tells no verdict leaves none in the journal. -/
theorem Beat.entries_unspoken {beat : Beat} (unspoken : beat.turn.Unspoken) (quiet : Bool) :
    ∀ entry ∈ beat.entries quiet, ¬ entry.happening.IsVerdict := by
  intro entry member
  rcases List.mem_append.mp member with logged | acted
  · obtain ⟨line, _, rfl⟩ := List.mem_map.mp logged
    exact id
  · obtain ⟨action, among, left⟩ := List.mem_flatMap.mp acted
    have silent := unspoken action among
    rcases List.mem_cons.mp left with rfl | shown
    · exact silent
    · obtain ⟨event, shows, rfl⟩ := List.mem_map.mp shown
      cases action with
      | ask question =>
          obtain rfl := List.mem_singleton.mp shows
          cases question <;> exact id
      | openSession | endSession =>
          obtain rfl := List.mem_singleton.mp shows
          exact id
      | deliver | report => exact absurd trivial silent
      | begin | log | raiseFlag | lowerFlag | finish => simp [Recorded.ofAction] at shows

theorem journalOf_unspoken {beats : List Beat}
    (unspoken : ∀ beat ∈ beats, beat.turn.Unspoken) (quiet : Bool) :
    ∀ entry ∈ journalOf quiet beats, ¬ entry.happening.IsVerdict := by
  intro entry member
  obtain ⟨beat, among, left⟩ := List.mem_flatMap.mp member
  exact Beat.entries_unspoken (unspoken beat among) quiet entry left

/-! ## The two runs -/

theorem Order.beats_all {settings : Settings} {script : Script} {patience : Option Nat}
    {began : Nat} {order : Order} {motive : Turn → Prop} (first : motive (order.start false))
    (reacts : ∀ (attempt : Attempt) (awaited : Awaited) (turn : Turn),
      attempt.Reacts settings awaited turn → motive turn) :
    ∀ beat ∈ order.beats settings script patience began, motive beat.turn := by
  intro beat member
  rcases List.mem_cons.mp member with rfl | later
  · exact first
  · cases rest : (order.start false).rest with
    | waiting attempt awaited =>
        rw [rest] at later
        exact Attempt.beats_all reacts _ beat later
    | finished ending => simp [rest, Rest.status, Status.beats] at later

namespace Order

variable {settings : Settings} {script : Script} {patience : Option Nat} {began : Nat}
  {order : Order} {beat : Beat}

/-- A turn ends the call just if it says how. -/
theorem beats_finish (member : beat ∈ order.beats settings script patience began)
    (ending : Ending) :
    beat.turn.rest = .finished ending ↔ ∃ purpose, .finish purpose ending ∈ beat.turn.actions :=
  beats_all (motive := fun turn => ∀ ending,
      turn.rest = .finished ending ↔ ∃ purpose, .finish purpose ending ∈ turn.actions)
    (fun ending => (order.start_firstTurn false).finished_iff ending)
    (fun _ _ _ reaction ending => reaction.nextTurn.finished_iff ending) beat member ending

/-- A turn by a moment before the end of the call tells no verdict. -/
theorem beats_unspoken {moment : Nat}
    (unended : ¬ EndsBy moment (order.beats settings script patience began))
    (member : beat ∈ order.beats settings script patience began) (inTime : beat.now ≤ moment) :
    beat.turn.Unspoken := by
  have unspoken : beat.turn.Unspoken ∨ ∃ ending, beat.turn.rest = .finished ending :=
    beats_all (order.start_unspoken false) (fun _ _ _ reaction => reaction.unspoken) beat member
  exact unspoken.resolve_right fun ends => unended ⟨beat, member, inTime, ends⟩

/-- A call that is not over by a moment opened its session when it began. -/
theorem start_opens {moment : Nat} (begun : began ≤ moment)
    (unended : ¬ EndsBy moment (order.beats settings script patience began)) :
    .openSession ∈ (order.start false).actions := by
  cases rest : (order.start false).rest with
  | waiting attempt awaited => exact (order.start_firstTurn false).opens rest
  | finished ending => exact absurd ⟨_, List.mem_cons_self .., begun, ending, rest⟩ unended

end Order

namespace Call

variable {scripts : List Script} {quiet : Bool} {settings : Settings} {call twin : Call}
  {moment : Nat}

/-- A call that is alone ended the way one of its turns did, and when. -/
theorem alone_ended
    (calls : ((call.alone moment).run (scripted scripts quiet) settings).calls = [twin])
    (ending : Ending) (ended : Nat) :
    twin.status = .finished ending ended ↔
      ∃ beat ∈ call.order.beats settings (scriptOf scripts 1) call.patience moment,
        beat.now = ended ∧ beat.turn.rest = .finished ending := by
  have found : ((call.alone moment).run (scripted scripts quiet) settings).calls[0]? =
      some twin := by simp [calls]
  have story := (call.alone_fresh moment).story (Timeline.run_interleaves _ _ _) found
  have deeds : ((call.alone moment).run (scripted scripts quiet) settings).service.deeds =
      (call.order.beats settings (scriptOf scripts 1) call.patience moment).flatMap fun beat =>
        beat.turn.deeds ⟨beat.now, 0, 1⟩ := by
    rw [Service.deeds, alone_journal, journalOf_deeds]
  rw [story.finished_iff]
  constructor
  · rintro ⟨purpose, finished⟩
    obtain ⟨deed, member, same⟩ := List.mem_map.mp finished
    rw [mem_deedsOf, deeds, List.mem_flatMap] at member
    obtain ⟨⟨beat, among, inTurn⟩, _⟩ := member
    obtain ⟨scene, acted⟩ := (Turn.mem_deeds _ _).mp inTurn
    obtain ⟨now, action⟩ := Prod.mk.inj same
    refine ⟨beat, among, ?_, (Order.beats_finish among ending).mpr ⟨purpose, action ▸ acted⟩⟩
    rw [← now, scene]
  · rintro ⟨beat, among, rfl, ends⟩
    obtain ⟨purpose, acted⟩ := (Order.beats_finish among ending).mp ends
    refine ⟨purpose, List.mem_map.mpr ⟨⟨⟨beat.now, 0, 1⟩, .finish purpose ending⟩, ?_, rfl⟩⟩
    rw [mem_deedsOf, deeds, List.mem_flatMap]
    exact ⟨⟨beat, among, (Turn.mem_deeds _ _).mpr ⟨rfl, acted⟩⟩, rfl⟩

/-- A call that is alone is over by a moment if one of its turns by then ends it. -/
theorem alone_over
    (calls : ((call.alone moment).run (scripted scripts quiet) settings).calls = [twin])
    (limit : Nat) :
    twin.ended?.any (· ≤ limit) = true ↔
      EndsBy limit (call.order.beats settings (scriptOf scripts 1) call.patience moment) := by
  have ended := alone_ended calls
  constructor
  · intro early
    obtain ⟨last, ends, inTime⟩ := (Option.any_eq_true _ _).mp early
    cases status : twin.status with
    | finished ending final =>
        have same : final = last := by simpa [ended?, status] using ends
        obtain ⟨beat, among, now, rest⟩ := (ended ending final).mp status
        exact ⟨beat, among, by simpa [now, same] using inTime, ending, rest⟩
    | notStarted => simp [ended?, status] at ends
    | waiting => simp [ended?, status] at ends
  · rintro ⟨beat, among, inTime, ending, rest⟩
    have status := (ended ending beat.now).mpr ⟨beat, among, rfl, rest⟩
    simpa [ended?, status] using inTime

/-- A call that is alone and has been given up on leaves the flag free. -/
theorem alone_free {limit : Nat} (limited : call.patience = some limit) :
    ((call.alone moment).run (scripted scripts quiet) settings).service.busy = false := by
  obtain ⟨twin, now, calls, _, _, patience, _, finished, _⟩ :=
    alone_drained scripts quiet settings call moment
  have returned : twin.isOver = true := by
    refine finished.resolve_right ?_
    rintro ⟨_, _, _, _, _, _, _, _, endless⟩
    simp [patience, limited] at endless
  apply Bool.eq_false_iff.mpr
  intro busy
  have reached := Timeline.run_interleaves (scripted scripts quiet) settings (call.alone moment)
  have claimed := (call.alone_fresh moment).claimed_reached reached
  obtain ⟨index, buyer, isThere, _, _, _, _, _, _, waits⟩ := claimed.busy_iff.mp busy
  obtain ⟨_, only⟩ := alone_found reached isThere
  obtain rfl := List.singleton_inj.mp (calls.symm.trans only)
  simp [isOver, waits] at returned

end Call

/-- What is journaled of a call that is given up on at a moment, and after that nothing: the end
of its session, the flag if it has it, and its own end. -/
def Purpose.farewell (purpose : Purpose) (moment : Nat) : List (Entry Recorded) :=
  let line := fun happening => ⟨moment, some ⟨moment, 0, 1⟩, happening⟩
  [line (.did (.say .debug "ending billing connection")), line (.did .endSession),
      line (.showed (.endConnection 1))] ++
    purpose.yield.map (fun action => line (.did action)) ++
    [line (.did (.finish purpose .cancelled))]

theorem Order.cancel_farewell (quiet : Bool) (moment : Nat) (order : Order) :
    Beat.entries quiet ⟨moment, [], order.cancel⟩ = order.purpose.farewell moment := by
  unfold Order.cancel Purpose.farewell
  cases order.purpose <;> rfl

/-- How the run of a call that is given up on at a moment compares to that of a call that is not
and that takes longer. -/
structure CutShort (purpose : Purpose) (began moment : Nat)
    (patient hasty : Timeline Unit Recorded Empty) : Prop where
  /-- All is the same up to the moment, and then the session is ended. -/
  journal : hasty.service.journal =
    (patient.service.journal.filter (·.now ≤ moment)) ++ purpose.farewell moment
  status : hasty.calls.map (·.status) = [.finished .cancelled moment]
  /-- The session that is ended is the one that was opened. -/
  opened : ⟨⟨began, 0, 1⟩, .openSession⟩ ∈ hasty.service.deeds
  /-- Nothing is delivered or reported, and no state of the attempt is told. -/
  unspoken : ∀ entry ∈ hasty.service.journal, ¬ entry.happening.IsVerdict

namespace Call

variable {scripts : List Script} {settings : Settings} {order : Order} {moment limit : Nat}

/-- If a call is over by then, nothing changes when its caller gives up. -/
theorem alone_unmoved (quiet : Bool)
    (ends : EndsBy (moment + limit) (order.beats settings (scriptOf scripts 1) none moment)) :
    let patient := (Call.alone { order := order } moment).run (scripted scripts quiet) settings
    let hasty := (Call.alone { order := order, patience := some limit } moment).run
      (scripted scripts quiet) settings
    hasty.service.journal = patient.service.journal ∧
      hasty.calls.map (·.status) = patient.calls.map (·.status) := by
  intro patient hasty
  have same := (order.beats_limited settings (scriptOf scripts 1) moment limit).of_ends ends
  obtain ⟨one, _, calls, _⟩ :=
    alone_drained scripts quiet settings { order := order } moment
  obtain ⟨other, _, others, _⟩ :=
    alone_drained scripts quiet settings { order := order, patience := some limit } moment
  constructor
  · rw [alone_journal, alone_journal]
    exact congrArg (journalOf quiet) same
  · obtain ⟨beat, among, _, ending, rest⟩ := ends
    have status := (alone_ended calls ending beat.now).mpr ⟨beat, among, rfl, rest⟩
    have statusToo := (alone_ended others ending beat.now).mpr ⟨beat, same ▸ among, rfl, rest⟩
    simp only [patient, hasty, calls, others, List.map_cons, List.map_nil, status, statusToo]

/-- If a call is not over by then, it is cut short when its caller gives up. -/
theorem alone_cut (quiet : Bool)
    (unended : ¬ EndsBy (moment + limit)
      (order.beats settings (scriptOf scripts 1) none moment)) :
    CutShort order.purpose moment (moment + limit)
      ((Call.alone { order := order } moment).run (scripted scripts quiet) settings)
      ((Call.alone { order := order, patience := some limit } moment).run
        (scripted scripts quiet) settings) := by
  have same := (order.beats_limited settings (scriptOf scripts 1) moment limit).of_unended unended
  have journal := alone_journal scripts quiet settings
    { order := order, patience := some limit } moment
  constructor
  case journal =>
    rw [journal, alone_journal, journalOf_filter, ← order.cancel_farewell quiet]
    exact (congrArg (journalOf quiet) same).trans (by simp)
  case status =>
    obtain ⟨other, _, others, _⟩ :=
      alone_drained scripts quiet settings { order := order, patience := some limit } moment
    have status := (alone_ended others .cancelled (moment + limit)).mpr
      ⟨⟨moment + limit, [], order.cancel⟩, by simp [same], rfl, rfl⟩
    simp only [others, List.map_cons, List.map_nil, status]
  case opened =>
    have opens := order.start_opens (Nat.le_add_right ..) unended
    rw [Service.deeds, journal, journalOf_deeds, List.mem_flatMap]
    exact ⟨⟨moment, [], order.start false⟩, List.mem_cons_self ..,
      (Turn.mem_deeds _ _).mpr ⟨rfl, opens⟩⟩
  case unspoken =>
    rw [journal]
    apply journalOf_unspoken
    intro beat member
    simp only [same, List.mem_append, List.mem_filter, decide_eq_true_eq,
      List.mem_singleton] at member
    rcases member with ⟨among, inTime⟩ | rfl
    · exact Order.beats_unspoken unended among inTime
    · exact order.cancel_unspoken

/-- Giving up on a call is clean at every moment. For every call that is alone with its script,
and whenever its caller gives up: if the call is over by then, giving up changes nothing. If it
is not, all that happens up to then is what happens anyway, and then the session is ended and
the call is cancelled, without a word on what it came to. In any case the flag is free. -/
theorem cancelled_cleanly (scripts : List Script) (quiet : Bool) (settings : Settings)
    (order : Order) (moment limit : Nat) :
    let patient := (Call.alone { order := order } moment).run (scripted scripts quiet) settings
    let hasty := (Call.alone { order := order, patience := some limit } moment).run
      (scripted scripts quiet) settings
    (if patient.calls.any (fun call => call.ended?.any (· ≤ moment + limit)) then
        hasty.service.journal = patient.service.journal ∧
          hasty.calls.map (·.status) = patient.calls.map (·.status)
      else CutShort order.purpose moment (moment + limit) patient hasty) ∧
      hasty.service.busy = false := by
  intro patient hasty
  obtain ⟨one, _, calls, _⟩ :=
    alone_drained scripts quiet settings { order := order } moment
  have endsIff : patient.calls.any (fun call => call.ended?.any (· ≤ moment + limit)) = true ↔
      EndsBy (moment + limit) (order.beats settings (scriptOf scripts 1) none moment) := by
    simpa [patient, calls] using alone_over calls (moment + limit)
  refine ⟨?_, alone_free rfl⟩
  split
  · next isOver => exact alone_unmoved quiet (endsIff.mp isOver)
  · next goesOn => exact alone_cut quiet fun ends => goesOn (endsIff.mpr ends)

/-- A session that is connected after a while and whose query takes longer. -/
def sluggish : Script :=
  { setup := { wait := .after 10 }, query := { wait := .after 40 } }

/-- A purchase on it is cut short when its caller gives up between the two answers. A caller who
gives up when the second is there is too late. -/
theorem sluggish_cut :
    let order : Order := ⟨.purchase, .catalog ⟨[⟨false, "subs", "premium"⟩]⟩, "activity"⟩
    let patient := (Call.alone { order := order } 5).run (scripted [sluggish] true) {}
    let hasty :=
      (Call.alone { order := order, patience := some 30 } 5).run (scripted [sluggish] true) {}
    let late :=
      (Call.alone { order := order, patience := some 50 } 5).run (scripted [sluggish] true) {}
    patient.calls.map (·.status) = [.finished (.succeeded .notFound) 55] ∧
      CutShort .purchase 5 35 patient hasty ∧ hasty.service.busy = false ∧
      late.service.journal = patient.service.journal := by
  intro order patient hasty late
  have early := cancelled_cleanly [sluggish] true {} order 5 30
  have overdue := cancelled_cleanly [sluggish] true {} order 5 50
  dsimp only at early overdue
  rw [if_neg ?unended] at early
  case unended => decide +kernel
  rw [if_pos ?ended] at overdue
  case ended => decide +kernel
  refine ⟨by decide +kernel, early.1, ?_, ?_⟩
  · simpa only [hasty] using early.2
  · simpa only [late, patient] using overdue.1.1

end Call

end Storefront
