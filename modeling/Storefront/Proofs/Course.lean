import Storefront.Proofs.Release

/-!
# The course of a call

Once it is fixed when each of its stages is answered, and how, nothing is left open about a
call: `Order.course` says what it does and when. `Call.Follows` couples what a call did so far
with what is still to come, and is kept by every turn that comes when it should.
-/

namespace Storefront

variable {World Show Signal : Type}

/-- The earlier of two turns to come, if any comes at all. If both come at once, the first one
goes first. -/
def earlier : Option (Nat × Turn) → Option (Nat × Turn) → Option (Nat × Turn)
  | some first, some second => if first.1 ≤ second.1 then some first else some second
  | some first, none => some first
  | none, second => second

namespace Attempt

/-- The next turn of a waiting attempt whose stages are answered by a script, and its moment.
An answer that is there by the deadline counts, and a caller gives up last. -/
def upcoming? (settings : Settings) (script : Script) (patience : Option Nat)
    (began since : Nat) (attempt : Attempt) (awaited : Awaited) : Option (Nat × Turn) :=
  let cue := script.cue awaited.stage
  let answered := (cue.due since).map fun moment =>
    (moment, attempt.resume settings awaited cue.reply.read.1)
  let expired := (deadline since settings.stageTimeout).map fun moment =>
    (max since moment, attempt.expire settings awaited)
  let cancelled := patience.map fun patience =>
    (max since (began + patience), attempt.cancel)
  earlier answered (earlier expired cancelled)

/-- What a waiting attempt is still going to do, in so many stages. -/
def course (settings : Settings) (script : Script) (patience : Option Nat) (began : Nat) :
    (stages since : Nat) → Attempt → Awaited → List (Nat × Action)
  | 0, _, _, _ => []
  | stages + 1, since, attempt, awaited =>
      match attempt.upcoming? settings script patience began since awaited with
      | none => []
      | some (now, turn) =>
          turn.timed now ++
            match turn.rest with
            | .waiting later ahead => later.course settings script patience began stages now ahead
            | .finished _ => []

end Attempt

/-- What a call at a status is still going to do. -/
def Status.course (settings : Settings) (script : Script) (patience : Option Nat) :
    Status → List (Nat × Action)
  | .waiting attempt awaited _ since began =>
      attempt.course settings script patience began awaited.stagesLeft since awaited
  | _ => []

/-- All that a call does that is not refused. -/
def Order.course (settings : Settings) (script : Script) (patience : Option Nat) (began : Nat)
    (order : Order) : List (Nat × Action) :=
  (order.start false).timed began ++
    ((order.start false).rest.status ⟨began, 0, 0⟩ began).course settings script patience

/-- What a call did so far and what it is still going to do are its course. -/
def Call.Follows (settings : Settings) (script : Script) (began : Nat) (call : Call)
    (past : List (Nat × Action)) : Prop :=
  past ++ call.status.course settings script call.patience =
    call.order.course settings script call.patience began

section Earlier

variable {first second : Option (Nat × Turn)} {turn : Nat × Turn}

theorem earlier_first (sooner : ∀ other ∈ second, turn.1 ≤ other.1) :
    earlier (some turn) second = some turn := by
  cases second with
  | none => rfl
  | some other => exact if_pos (sooner other rfl)

theorem earlier_second (sooner : ∀ other ∈ first, turn.1 < other.1) :
    earlier first (some turn) = some turn := by
  cases first with
  | none => rfl
  | some other =>
      have later := sooner other rfl
      exact if_neg (by omega)

/-- The earlier of two turns is one of them. -/
theorem earlier_mem (member : turn ∈ earlier first second) : turn ∈ first ∨ turn ∈ second := by
  unfold earlier at member
  split at member
  · split at member
    · exact .inl member
    · exact .inr member
  · exact .inl member
  · exact .inr member

/-- If one of two turns comes by some time, the earlier of them does. -/
theorem earlier_by {limit : Nat}
    (due : (∃ turn ∈ first, turn.1 ≤ limit) ∨ ∃ turn ∈ second, turn.1 ≤ limit) :
    ∃ turn ∈ earlier first second, turn.1 ≤ limit := by
  cases first with
  | none => simpa [earlier] using due
  | some early =>
      cases second with
      | none => simpa [earlier] using due
      | some late =>
          simp only [Option.mem_def, Option.some.injEq, exists_eq_left'] at due
          by_cases sooner : early.1 ≤ late.1
          · exact ⟨early, if_pos sooner, by omega⟩
          · exact ⟨late, if_neg sooner, by omega⟩

end Earlier

/-- The answers of a backend come at moments that do not depend on what happens meanwhile. -/
def Backend.Steady (backend : Backend World Show Signal) : Prop :=
  ∀ session stage since world other,
    backend.due session stage since world = backend.due session stage since other

theorem scripted_steady (scripts : List Script) (quiet : Bool) :
    (scripted scripts quiet).Steady := fun _ _ _ _ _ => rfl

theorem routed_steady (quiet : Bool) : (routed quiet).Steady := fun _ _ _ _ _ => rfl

/-- A call that waits was not left waiting past a moment at which it could go on. -/
structure Punctual (backend : Backend World Show Signal) (settings : Settings) (now : Nat)
    (patience : Option Nat) (awaited : Awaited) (session since began : Nat) : Prop where
  begun : since ≤ now
  inTime : ∀ moment ∈ deadline since settings.stageTimeout, now ≤ max since moment
  patient : ∀ limit ∈ patience, now ≤ max since (began + limit)
  unanswered : ∀ world, ∀ moment ∈ backend.due session awaited.stage since world,
    now ≤ max since moment

namespace Punctual

variable {backend : Backend World Show Signal} {settings : Settings} {script : Script}
  {patience : Option Nat} {session began since now : Nat} {attempt : Attempt} {awaited : Awaited}
  (punctual : Punctual backend settings now patience awaited session since began)
include punctual

/-- An answer that is there now comes next. -/
theorem upcoming_answered (due : (script.cue awaited.stage).due since = some now) :
    attempt.upcoming? settings script patience began since awaited =
      some (now, attempt.resume settings awaited (script.cue awaited.stage).reply.read.1) := by
  unfold Attempt.upcoming?
  simp only [due, Option.map_some]
  apply earlier_first
  intro other member
  rcases earlier_mem member with member | member
  · obtain ⟨moment, expiry, rfl⟩ := Option.map_eq_some_iff.mp member
    exact punctual.inTime moment expiry
  · obtain ⟨limit, limited, rfl⟩ := Option.map_eq_some_iff.mp member
    exact punctual.patient limit limited

section Unanswered

variable (unanswered : ∀ moment ∈ (script.cue awaited.stage).due since, now < moment)
include unanswered

/-- A stage that takes too long and is not answered by now is given up. -/
theorem upcoming_expired (late : isLate since now settings.stageTimeout = true) :
    attempt.upcoming? settings script patience began since awaited =
      some (now, attempt.expire settings awaited) := by
  obtain ⟨expiry, limited, passed⟩ := (Option.any_eq_true _ _).mp late
  have exact : max since expiry = now := by
    have begun := punctual.begun
    have inTime := punctual.inTime expiry limited
    simp only [decide_eq_true_eq] at passed
    omega
  unfold Attempt.upcoming?
  simp only [limited, Option.map_some, exact]
  rw [earlier_first, earlier_second]
  · intro other member
    obtain ⟨moment, due, rfl⟩ := Option.map_eq_some_iff.mp member
    exact unanswered moment due
  · intro other member
    obtain ⟨limit, limited, rfl⟩ := Option.map_eq_some_iff.mp member
    exact punctual.patient limit limited

/-- A caller who loses patience gives up if nothing else comes. -/
theorem upcoming_cancelled (early : isLate since now settings.stageTimeout = false)
    {limit : Nat} (limited : patience = some limit) (passed : began + limit ≤ now) :
    attempt.upcoming? settings script patience began since awaited =
      some (now, attempt.cancel) := by
  have exact : max since (began + limit) = now := by
    have begun := punctual.begun
    have patient := punctual.patient limit limited
    omega
  unfold Attempt.upcoming?
  simp only [limited, Option.map_some, exact]
  rw [earlier_second, earlier_second]
  · intro other member
    obtain ⟨moment, due, rfl⟩ := Option.map_eq_some_iff.mp member
    exact unanswered moment due
  · intro other member
    obtain ⟨moment, expiry, rfl⟩ := Option.map_eq_some_iff.mp member
    simp only [isLate, expiry, Option.any_some, decide_eq_false_iff_not, Nat.not_le] at early
    exact Nat.lt_of_lt_of_le early (Nat.le_max_right ..)

end Unanswered

end Punctual

/-- Where nothing is due, nothing comes. -/
theorem Attempt.upcoming_none {settings : Settings} {script : Script} {began since : Nat}
    {attempt : Attempt} {awaited : Awaited}
    (unanswered : (script.cue awaited.stage).due since = none)
    (unlimited : longestTimeout < settings.stageTimeout.seconds) :
    attempt.upcoming? settings script none began since awaited = none := by
  have endless : deadline since settings.stageTimeout = none := if_neg (by omega)
  simp [upcoming?, unanswered, endless, earlier]

section Course

variable {settings : Settings} {script : Script} {patience : Option Nat}

/-- What is still to come does not depend on who waits. -/
theorem Rest.course_status (rest : Rest) (scene : Scene) (began : Nat) :
    (rest.status scene began).course settings script patience =
      (rest.status ⟨scene.now, 0, 0⟩ began).course settings script patience := by
  cases rest <;> rfl

/-- What is still to come begins with the turn that comes next. -/
theorem Status.course_upcoming {attempt : Attempt} {awaited : Awaited}
    {session since began : Nat} {scene : Scene} {turn : Turn}
    (next : attempt.upcoming? settings script patience began since awaited =
      some (scene.now, turn))
    (form : attempt.NextTurn awaited turn) :
    (Status.waiting attempt awaited session since began).course settings script patience =
      turn.timed scene.now ++
        (turn.rest.status scene began).course settings script patience := by
  obtain ⟨stages, left⟩ : ∃ stages, awaited.stagesLeft = stages + 1 :=
    Nat.exists_eq_succ_of_ne_zero (Nat.ne_of_gt awaited.stagesLeft_pos)
  rw [Status.course, left, Attempt.course]
  simp only [next]
  cases form with
  | asks quiet same stage progress =>
      have fewer : stages = _ := Nat.succ.inj (left.symm.trans progress.symm)
      simp only [Rest.status, Status.course, fewer]
  | succeeds | fails | cancelled => rfl

namespace Call.Follows

variable {call : Call} {began : Nat}

/-- A call that is not refused starts its course. -/
theorem start {busy : Bool} {scene : Scene}
    (free : call.order.start busy = call.order.start false) :
    Call.Follows settings script scene.now
      { call with status := (call.order.start busy).rest.status scene scene.now }
      ((call.order.start busy).timed scene.now) := by
  simp only [Call.Follows, Order.course, free, Rest.course_status _ scene]

/-- A call that takes the turn that comes next goes on in its course. -/
theorem react {past : List (Nat × Action)} (follows : call.Follows settings script began past)
    {attempt : Attempt} {awaited : Awaited} {session since start : Nat} {scene : Scene}
    {turn : Turn} (waits : call.status = .waiting attempt awaited session since start)
    (next : attempt.upcoming? settings script call.patience start since awaited =
      some (scene.now, turn))
    (form : attempt.NextTurn awaited turn) :
    Call.Follows settings script began { call with status := turn.rest.status scene start }
      (past ++ turn.timed scene.now) := by
  rw [Call.Follows, waits, Status.course_upcoming next form] at follows
  rw [Call.Follows, List.append_assoc]
  exact follows

/-- When nothing more is to come, a call did all of its course. -/
theorem done {past : List (Nat × Action)} (follows : call.Follows settings script began past)
    (nothing : call.status.course settings script call.patience = []) :
    past = call.order.course settings script call.patience began := by
  rw [Call.Follows, nothing, List.append_nil] at follows
  exact follows

end Call.Follows

/-- A call for which nothing more is to come. -/
theorem Status.course_finished {status : Status} {ending : Ending}
    {moment : Nat} (ends : status = .finished ending moment) :
    status.course settings script patience = [] := by
  subst ends
  rfl

/-- A call that nothing will ever move on is at the end of its course. -/
theorem Call.course_stranded {backend : Backend World Show Signal} {call : Call} {world : World}
    (stranded : call.Stranded backend settings world)
    (unanswered : ∀ {attempt awaited session since began},
      call.status = .waiting attempt awaited session since began →
      backend.due session awaited.stage since world = none →
      (script.cue awaited.stage).due since = none) :
    call.status.course settings script call.patience = [] := by
  obtain ⟨attempt, awaited, session, since, began, waits, undue, unlimited, patient⟩ := stranded
  obtain ⟨stages, left⟩ : ∃ stages, awaited.stagesLeft = stages + 1 :=
    Nat.exists_eq_succ_of_ne_zero (Nat.ne_of_gt awaited.stagesLeft_pos)
  rw [waits, Status.course, left, Attempt.course, patient,
    Attempt.upcoming_none (unanswered waits undue) unlimited]

end Course

/-- A lookup does not ask for the flag. -/
theorem Order.start_lookup {order : Order} {busy : Bool} (lookup : order.purpose = .lookup) :
    order.start busy = order.start false := by
  simp only [Order.start, lookup]

/-- A first turn that opens a session finds the flag free, or does not ask for it. -/
theorem Order.start_free {order : Order} {busy : Bool}
    (opens : .openSession ∈ (order.start busy).actions) :
    order.start busy = order.start false := by
  cases purpose : order.purpose with
  | lookup => exact start_lookup purpose
  | purchase =>
      have free : busy = false := by
        have form := order.start_firstTurn busy
        generalize order.start busy = turn at form opens
        cases form with
        | opened accepted free quiet => exact free purpose
        | unread | empty | notSingle | refused => simp at opens
      rw [free]

/-- Who opened a session does so whenever the flag is free. -/
theorem Story.opens {settings : Settings} {order : Order} {index : Nat} {status : Status}
    {deeds : List Deed} (story : Story settings order index status deeds) {scene : Scene}
    (opened : ⟨scene, .openSession⟩ ∈ deeds) : .openSession ∈ (order.start false).actions := by
  induction story with
  | unstarted => simp at opened
  | started now session busy =>
      have inTurn := ((Turn.mem_deeds _ _).mp opened).2
      rwa [← Order.start_free inTurn]
  | reacted now prior reaction inductionHypothesis =>
      rcases List.mem_append.mp opened with before | inTurn
      · exact inductionHypothesis before
      · exact absurd ((Turn.mem_deeds _ _).mp inTurn).2 reaction.nextTurn.opens_nothing

end Storefront
