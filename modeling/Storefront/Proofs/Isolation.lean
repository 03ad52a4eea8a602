import Storefront.Proofs.Accounting
import Storefront.Proofs.Following
import Storefront.Proofs.Showing

/-!
# Calls do not see each other

The course of a call depends on the moment it begins in nothing but that all of it comes so much
later, as long as the clock goes on: that is `Order.course_postponed`. What a call does among
others is its course, and so is what it does by itself. So `Timeline.calls_isolated` finds that
no other call changes what it does, what is shown of it, what it delivers or reports, and how it
ends.
-/

namespace Storefront

/-! ## The course of a call that begins later -/

/-- An event that comes some time later. -/
def postponed {Happened : Type} (span : Nat) (event : Nat × Happened) : Nat × Happened :=
  (event.1 + span, event.2)

/-- An event with the time that passed since a start instead of its moment. -/
def elapsed {Happened : Type} (start : Nat) (event : Nat × Happened) : Int × Happened :=
  (event.1 - start, event.2)

/-- The clock goes on long enough for some stages from a moment on, if stages time out. -/
def Settings.HasRoom (settings : Settings) (stages since : Nat) : Prop :=
  settings.stageTimeout.seconds ≤ longestTimeout →
    since + stages * settings.stageTimeout.wholeMilliseconds ≤ clockEnd

instance (settings : Settings) (stages since : Nat) : Decidable (settings.HasRoom stages since) :=
  inferInstanceAs (Decidable (_ → _))

theorem Settings.HasRoom.fewer {settings : Settings} {stages fewer since : Nat}
    (room : settings.HasRoom stages since) (less : fewer ≤ stages) :
    settings.HasRoom fewer since := by
  intro limited
  have enough := room limited
  have part := Nat.mul_le_mul_right settings.stageTimeout.wholeMilliseconds less
  omega

/-- Who starts later by some time sees the same from there. -/
theorem map_elapsed_postponed {Happened : Type} (start : Nat) (events : List (Nat × Happened)) :
    (events.map (postponed start)).map (elapsed start) = events.map (elapsed 0) := by
  rw [List.map_map]
  apply List.map_congr_left
  intro event _
  simp [postponed, elapsed]

theorem Turn.timed_postponed (turn : Turn) (now span : Nat) :
    turn.timed (now + span) = (turn.timed now).map (postponed span) := by
  simp [Turn.timed, postponed]

theorem Cue.due_postponed (cue : Cue) (since span : Nat) :
    cue.due (since + span) = (cue.due since).map (· + span) := by
  unfold Cue.due
  cases cue.wait with
  | never => rfl
  | after milliseconds =>
      simp only [Option.map_some, Option.some.injEq]
      omega

theorem earlier_postponed (span : Nat) (first second : Option (Nat × Turn)) :
    earlier (first.map (postponed span)) (second.map (postponed span)) =
      (earlier first second).map (postponed span) := by
  cases first with
  | none => rfl
  | some early =>
      cases second with
      | none => rfl
      | some late =>
          simp only [Option.map_some, earlier, postponed, Nat.add_le_add_iff_right]
          split <;> rfl

section Postponed

variable {settings : Settings} {script : Script} {patience : Option Nat}

/-- A stage of a call that begins later is given up on later. -/
theorem deadline_postponed {since span : Nat} (room : settings.HasRoom 1 (since + span)) :
    (deadline (since + span) settings.stageTimeout).map (max (since + span)) =
      ((deadline since settings.stageTimeout).map (max since)).map (· + span) := by
  unfold deadline
  split
  · next limited =>
    have enough := room limited
    simp only [Option.map_some, Option.some.injEq]
    omega
  · rfl

namespace Attempt

variable {attempt : Attempt} {awaited : Awaited}

/-- The next turn of a call that begins later comes later. -/
theorem upcoming_postponed {since span : Nat} (room : settings.HasRoom 1 (since + span)) :
    attempt.upcoming? settings script patience span (since + span) awaited =
      (attempt.upcoming? settings script patience 0 since awaited).map (postponed span) := by
  have answered : ((script.cue awaited.stage).due (since + span)).map (fun moment =>
      (moment, attempt.resume settings awaited (script.cue awaited.stage).reply.read.1)) =
      (((script.cue awaited.stage).due since).map fun moment =>
        (moment, attempt.resume settings awaited (script.cue awaited.stage).reply.read.1)).map
          (postponed span) := by
    rw [Cue.due_postponed, Option.map_map, Option.map_map]
    rfl
  have expired : (deadline (since + span) settings.stageTimeout).map (fun moment =>
      (max (since + span) moment, attempt.expire settings awaited)) =
      ((deadline since settings.stageTimeout).map fun moment =>
        (max since moment, attempt.expire settings awaited)).map (postponed span) := by
    have same := congrArg (Option.map (·, attempt.expire settings awaited))
      (deadline_postponed room)
    simpa only [Option.map_map, Function.comp_def, postponed] using same
  have cancelled : patience.map (fun limit =>
      (max (since + span) (span + limit), attempt.cancel)) =
      (patience.map fun limit => (max since (0 + limit), attempt.cancel)).map
        (postponed span) := by
    rw [Option.map_map]
    congr 1
    funext limit
    simp only [Function.comp, postponed, Prod.mk.injEq, and_true]
    omega
  unfold upcoming?
  simp only [answered, expired, cancelled, earlier_postponed]

/-- Where stages time out, something comes by then. -/
theorem upcoming_inTime {began since : Nat}
    (limited : settings.stageTimeout.seconds ≤ longestTimeout) :
    ∃ turn ∈ attempt.upcoming? settings script patience began since awaited,
      turn.1 ≤ since + settings.stageTimeout.wholeMilliseconds := by
  unfold upcoming? deadline
  rw [if_pos limited]
  apply earlier_by
  refine .inr (earlier_by (.inl ⟨_, rfl, ?_⟩))
  simp only
  omega

/-- After the next turn the clock goes on long enough for the stages left. -/
theorem upcoming_room {stages since span moment : Nat} {turn : Turn}
    (room : settings.HasRoom (stages + 1) (since + span))
    (next : attempt.upcoming? settings script patience 0 since awaited = some (moment, turn)) :
    settings.HasRoom stages (moment + span) := by
  intro limited
  have enough := room limited
  obtain ⟨_, comes, inTime⟩ := upcoming_inTime limited
  cases next.symm.trans comes
  rw [Nat.succ_mul] at enough
  omega

/-- What a call still does that begins later comes later. -/
theorem course_postponed (stages : Nat) {since span : Nat}
    (room : settings.HasRoom stages (since + span)) :
    attempt.course settings script patience span stages (since + span) awaited =
      (attempt.course settings script patience 0 stages since awaited).map
        (postponed span) := by
  induction stages generalizing since attempt awaited with
  | zero => rfl
  | succ stages inductionHypothesis =>
      rw [course, course, upcoming_postponed (room.fewer (Nat.le_add_left ..))]
      cases next : attempt.upcoming? settings script patience 0 since awaited with
      | none => rfl
      | some upcoming =>
          obtain ⟨now, turn⟩ := upcoming
          simp only [Option.map_some, postponed, Turn.timed_postponed, List.map_append]
          congr 1
          cases turn.rest with
          | waiting later ahead => exact inductionHypothesis (upcoming_room room next)
          | finished ending => rfl

end Attempt

/-- A call that begins later does the same later. -/
theorem Order.course_postponed (order : Order) {began : Nat} (room : settings.HasRoom 3 began) :
    order.course settings script patience began =
      (order.course settings script patience 0).map (postponed began) := by
  have first := (order.start false).timed_postponed 0 began
  rw [Nat.zero_add] at first
  unfold Order.course
  rw [List.map_append, first]
  congr 1
  cases (order.start false).rest with
  | finished ending => rfl
  | waiting attempt awaited =>
      have left : settings.HasRoom awaited.stagesLeft (0 + began) := by
        rw [Nat.zero_add]
        exact room.fewer (Call.stagesLeft_le awaited)
      simpa [Rest.status, Status.course] using Attempt.course_postponed _ left

/-- From its start on, the course of a call is the same whenever it begins. -/
theorem Order.course_elapsed (order : Order) {began moment : Nat}
    (room : moment = began ∨ settings.HasRoom 3 began ∧ settings.HasRoom 3 moment) :
    (order.course settings script patience began).map (elapsed began) =
      (order.course settings script patience moment).map (elapsed moment) := by
  rcases room with rfl | ⟨here, there⟩
  · rfl
  · rw [order.course_postponed here, order.course_postponed there, map_elapsed_postponed,
      map_elapsed_postponed]

end Postponed

/-! ## Two runs -/

/-- When a call ended and how, if it has. -/
def Call.ending? (call : Call) : Option (Nat × Ending) :=
  match call.status with
  | .finished ending moment => some (moment, ending)
  | _ => none

theorem Call.ending?_eq_some {call : Call} {moment : Nat} {ending : Ending} :
    call.ending? = some (moment, ending) ↔ call.status = .finished ending moment := by
  unfold ending?
  cases call.status <;> simp [and_comm]

namespace Timeline

/-- What a call of one run has in common with the only call of another, when each is timed from
its own start. -/
structure Isolated (index session began moment : Nat)
    (final lone : Timeline Unit Recorded Empty) : Prop where
  /-- What it did. -/
  deeds : (timed index final.service.deeds).map (elapsed began) =
    (timed 0 lone.service.deeds).map (elapsed moment)
  /-- What was shown of it, the number of its session apart. -/
  shown : (shownBy index final.service.journal).map (elapsed began) =
    (shownBy 0 lone.service.journal).map fun event =>
      elapsed moment (event.1, event.2.numbered session)
  /-- What it delivered or reported. -/
  told : final.toldBy index = lone.toldBy 0
  /-- What it returned. -/
  ended : (final.calls[index]?.bind Call.ending?).map (elapsed began) =
    (lone.calls[0]?.bind Call.ending?).map (elapsed moment)

section Elapsed

variable {World Signal : Type} {backend : Backend World Recorded Signal} {settings : Settings}
  {quiet : Bool} {origin timeline : Timeline World Recorded Signal}

/-- What a call told follows from what it did. -/
theorem toldBy_elapsed (index start : Nat) :
    timeline.toldBy index =
      told (((timed index timeline.service.deeds).map (elapsed start)).map (·.2)) := by
  simp [toldBy, actionsOf, timed, elapsed, Function.comp_def]

variable (fresh : origin.Fresh) (reached : origin.Interleaves backend settings timeline)
include fresh reached

/-- What was shown of a call, and how long after its start, follows from what it did. -/
theorem shown_elapsed (records : backend.Records quiet) (index session start : Nat) :
    (shownBy index timeline.service.journal).map
        (fun event => elapsed start (event.1, event.2.numbered session)) =
      ((timed index timeline.service.deeds).map (elapsed start)).flatMap fun deed =>
        (Recorded.ofAction quiet session deed.2).map (deed.1, ·) := by
  have shown := congrArg (List.map (elapsed start))
    (shown_timed fresh reached records index session)
  rw [List.map_map, List.map_flatMap] at shown
  rw [List.flatMap_map]
  simpa [elapsed, Function.comp_def] using shown

/-- How a call ended, and how long after its start, follows from what it did. -/
theorem ending_elapsed {index : Nat} {call : Call} (found : timeline.calls[index]? = some call)
    (start : Nat) (span : Int) (ending : Ending) :
    (timeline.calls[index]?.bind Call.ending?).map (elapsed start) = some (span, ending) ↔
      ∃ purpose, (span, .finish purpose ending) ∈
        (timed index timeline.service.deeds).map (elapsed start) := by
  have finished : ∀ moment ending, timeline.calls[index]?.bind Call.ending? =
      some (moment, ending) ↔
        ∃ purpose, (moment, .finish purpose ending) ∈ timed index timeline.service.deeds := by
    intro moment ending
    rw [← ended_timed fresh reached found, Option.bind_eq_some_iff]
    simp only [Call.ending?_eq_some]
  simp only [Option.map_eq_some_iff, Prod.exists, finished, List.mem_map, elapsed, Prod.mk.injEq]
  constructor
  · rintro ⟨moment, ending, ⟨purpose, member⟩, passed, rfl⟩
    exact ⟨purpose, moment, _, member, passed, rfl⟩
  · rintro ⟨purpose, moment, _, member, passed, rfl⟩
    exact ⟨moment, ending, ⟨purpose, member⟩, passed, rfl⟩

end Elapsed

/-- Calls do not see each other. In a run of any calls on a scripted backend, whatever becomes
of the others, a call that is not refused does, shows, tells and returns what it does in a run
of its own with the script of its session, with the same time from its start to each. The other
run may start the call at the same moment, or at any other if the clock has room for the call
after both. -/
theorem calls_isolated (scripts : List Script) (quiet : Bool) (settings : Settings)
    {origin : Timeline Unit Recorded Empty} (fresh : origin.Fresh) {scene : Scene} {call : Call}
    (found : (origin.run (scripted scripts quiet) settings).calls[scene.call]? = some call)
    (began : ⟨scene, .begin⟩ ∈ (origin.run (scripted scripts quiet) settings).service.deeds)
    (free : call.order.purpose = .lookup ∨
      .raiseFlag ∈ actionsOf scene.call
        (origin.run (scripted scripts quiet) settings).service.deeds)
    {moment : Nat}
    (room : moment = scene.now ∨ settings.HasRoom 3 scene.now ∧ settings.HasRoom 3 moment) :
    Isolated scene.call scene.session scene.now moment
      (origin.run (scripted scripts quiet) settings)
      ((call.alone moment).run (scripted [scriptOf scripts scene.session] quiet) settings) := by
  let script := scriptOf scripts scene.session
  have reached := run_interleaves (scripted scripts quiet) settings origin
  have reachedAlone := run_interleaves (scripted [script] quiet) settings (call.alone moment)
  have freshAlone := call.alone_fresh moment
  obtain ⟨twin, _, calls, _⟩ := call.alone_run script quiet settings moment
  have foundAlone : ((call.alone moment).run (scripted [script] quiet) settings).calls[0]? =
      some twin := by simp [calls]
  have opened := free.imp_right fun raised =>
    ((fresh.life reached found).raiseFlag_iff.mp raised).2
  have opens : call.order.purpose = .lookup ∨
      .openSession ∈ (call.order.start false).actions := opened.imp_right fun opened => by
    obtain ⟨⟨scene, _⟩, own, rfl⟩ := List.mem_map.mp opened
    exact (fresh.story reached found).opens own
  have deeds : (timed scene.call
        (origin.run (scripted scripts quiet) settings).service.deeds).map (elapsed scene.now) =
      (timed 0 ((call.alone moment).run (scripted [script] quiet) settings).service.deeds).map
        (elapsed moment) := by
    rw [fresh.begun_course found began opened, call.alone_begun script quiet settings moment opens]
    exact call.order.course_elapsed room
  refine ⟨deeds, ?_, ?_, ?_⟩
  · have own := congrArg (List.map (elapsed scene.now))
      (shown_session fresh reached (scripted_records scripts quiet) found began)
    rw [← own, List.map_map, shown_elapsed freshAlone reachedAlone (scripted_records _ quiet),
      ← deeds]
    exact shown_elapsed fresh reached (scripted_records scripts quiet) ..
  · rw [toldBy_elapsed _ scene.now, deeds, ← toldBy_elapsed]
  · apply Option.ext
    rintro ⟨span, ending⟩
    rw [ending_elapsed fresh reached found, deeds,
      ← ending_elapsed freshAlone reachedAlone foundAlone]

/-- A lookup that fails, a purchase during it, a purchase that is refused meanwhile and a lookup
that is given up on. -/
def overlapping : Timeline Unit Recorded Empty where
  calls :=
    let premium : Catalog.Canonical := ⟨[⟨false, "subs", "premium"⟩]⟩
    [{ order := ⟨.lookup, .catalog premium, "activity"⟩ },
      { order := ⟨.purchase, .catalog premium, "activity"⟩, delay := 1 },
      { order := ⟨.purchase, .catalog premium, "activity"⟩, delay := 2 },
      { order := ⟨.lookup, .catalog premium, "activity"⟩, delay := 2, patience := some 1 }]
  service := { world := () }

/-- The sessions of the three calls that open one. -/
def overlappingScripts : List Script :=
  [{ setup := { wait := .after 5, reply := { result := ⟨.billingUnavailable, ""⟩ } } },
    { setup := { wait := .after 2 },
      query := { wait := .after 3, reply := { result := ⟨.userCanceled, ""⟩ } } },
    { setup := { wait := .never } }]

/-- The purchase comes to the same end by itself, as long after its start. -/
theorem overlapping_isolated :
    ∃ call, (overlapping.run (scripted overlappingScripts true) {}).calls[1]? = some call ∧
      call.status = .finished (.failed (.unexpected .queryOffers ⟨.userCanceled, ""⟩)) 6 ∧
      Isolated 1 2 1 40 (overlapping.run (scripted overlappingScripts true) {})
        ((call.alone 40).run (scripted [scriptOf overlappingScripts 2] true) {}) := by
  have fresh : overlapping.Fresh := ⟨by decide, rfl, rfl, rfl⟩
  obtain ⟨call, found, ends⟩ := Option.map_eq_some_iff.mp (by decide +kernel :
    (overlapping.run (scripted overlappingScripts true) {}).calls[1]?.map (·.status) =
      some (.finished (.failed (.unexpected .queryOffers ⟨.userCanceled, ""⟩)) 6))
  let scene : Scene := ⟨1, 1, 2⟩
  have began : ⟨scene, .begin⟩ ∈
      (overlapping.run (scripted overlappingScripts true) {}).service.deeds := by
    decide +kernel
  have raised : .raiseFlag ∈ actionsOf scene.call
      (overlapping.run (scripted overlappingScripts true) {}).service.deeds := by
    decide +kernel
  have room : ({} : Settings).HasRoom 3 scene.now ∧ ({} : Settings).HasRoom 3 40 := by
    decide +kernel
  exact ⟨call, found, ends, calls_isolated overlappingScripts true {} fresh found began
    (.inr raised) (.inr room)⟩

end Timeline

end Storefront
