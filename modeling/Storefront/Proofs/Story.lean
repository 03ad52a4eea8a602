import Storefront.Proofs.Interleaving

/-!
# One call among others

`Story` is what one call can do by itself: its first turn, then reactions until it is over.
`Fresh.story` finds a story of every call in every interleaving, and `Interleaves.taken` finds
the turn that a deed belongs to.
-/

namespace Storefront

variable {World Show Signal : Type}

/-- What a call that is now at a status can have done. -/
inductive Story (settings : Settings) (order : Order) (index : Nat) :
    Status → List Deed → Prop where
  | unstarted : Story settings order index .notStarted []
  | started (now session : Nat) (busy : Bool) :
      Story settings order index
        ((order.start busy).rest.status ⟨now, index, session⟩ now)
        ((order.start busy).deeds ⟨now, index, session⟩)
  | reacted {attempt awaited session since began past turn} (now : Nat)
      (prior : Story settings order index (.waiting attempt awaited session since began) past)
      (reaction : attempt.Reacts settings awaited turn) :
      Story settings order index (turn.rest.status ⟨now, index, session⟩ began)
        (past ++ turn.deeds ⟨now, index, session⟩)

theorem Rest.status_ne_notStarted (rest : Rest) (scene : Scene) (began : Nat) :
    rest.status scene began ≠ .notStarted := by
  cases rest <;> simp [Rest.status]

theorem Story.unstarted_deeds {settings : Settings} {order : Order} {index : Nat}
    {status : Status} {deeds : List Deed} (story : Story settings order index status deeds)
    (idle : status = .notStarted) : deeds = [] := by
  cases story with
  | unstarted => rfl
  | started now session busy => exact absurd idle (Rest.status_ne_notStarted _ _ _)
  | reacted now prior reaction => exact absurd idle (Rest.status_ne_notStarted _ _ _)

/-- All deeds of a story belong to one session, the one the call waits in. -/
theorem Story.session {settings : Settings} {order : Order} {index : Nat} {status : Status}
    {deeds : List Deed} (story : Story settings order index status deeds) :
    ∃ session, (∀ deed ∈ deeds, deed.scene.session = session) ∧
      ∀ attempt awaited present since began,
        status = .waiting attempt awaited present since began → present = session := by
  have waits : ∀ (rest : Rest) (scene : Scene) (moment : Nat) attempt awaited present since began,
      rest.status scene moment = .waiting attempt awaited present since began →
        present = scene.session := by
    intro rest scene moment attempt awaited present since began same
    cases rest <;> simp_all [Rest.status]
  induction story with
  | unstarted => exact ⟨0, by simp, by simp⟩
  | started now session busy =>
      refine ⟨session, fun deed member => ?_, waits _ _ _⟩
      rw [((Turn.mem_deeds _ _).mp member).1]
  | reacted now prior reaction inductionHypothesis =>
      obtain ⟨session, same, present⟩ := inductionHypothesis
      have here := present _ _ _ _ _ rfl
      subst here
      refine ⟨_, fun deed member => ?_, waits _ _ _⟩
      rcases List.mem_append.mp member with member | member
      · exact same deed member
      · rw [((Turn.mem_deeds _ _).mp member).1]

/-- Whatever a waiting call did is of the session it waits in. -/
theorem Story.waiting_session {settings : Settings} {order : Order} {index : Nat} {status : Status}
    {deeds : List Deed} (story : Story settings order index status deeds) {attempt : Attempt}
    {awaited : Awaited} {session since began : Nat}
    (waits : status = .waiting attempt awaited session since began) {deed : Deed}
    (member : deed ∈ deeds) : deed.scene.session = session := by
  obtain ⟨own, same, present⟩ := story.session
  exact (same deed member).trans (present _ _ _ _ _ waits).symm

namespace Timeline

variable {backend : Backend World Show Signal} {settings : Settings}
  {origin timeline : Timeline World Show Signal}

/-- After a turn, a call is the one that took it or one that was there before. -/
theorem takeTurn_found {scene : Scene} {began : Nat} {turn : Turn} {call other : Call}
    {index : Nat}
    (found : (timeline.takeTurn backend scene began turn call).calls[index]? = some other) :
    index = scene.call ∧ other = { call with status := turn.rest.status scene began } ∨
      index ≠ scene.call ∧ timeline.calls[index]? = some other := by
  rw [takeTurn_calls] at found
  by_cases same : index = scene.call
  · subst same
    have inside : scene.call < timeline.calls.length := by
      have bound := (List.getElem?_eq_some_iff.mp found).1
      simpa using bound
    rw [List.getElem?_set_self inside] at found
    exact .inl ⟨rfl, (Option.some.inj found).symm⟩
  · rw [List.getElem?_set_ne (Ne.symm same)] at found
    exact .inr ⟨same, found⟩

/-- Every call has a story, whatever the others do. -/
theorem Fresh.story (fresh : origin.Fresh) (reached : origin.Interleaves backend settings timeline)
    {index : Nat} {call : Call} (found : timeline.calls[index]? = some call) :
    Story settings call.order index call.status (deedsOf index timeline.service.deeds) := by
  induction reached generalizing index call with
  | refl =>
      rw [fresh.deeds, fresh.idle call (List.mem_of_getElem? found)]
      exact .unstarted
  | @step timeline next prior transition inductionHypothesis =>
      cases transition with
      | start now isThere idle =>
          rw [takeTurn_deeds, deedsOf_append, Turn.deedsOf_deeds]
          rcases takeTurn_found found with ⟨rfl, rfl⟩ | ⟨other, before⟩
          · rw [(inductionHypothesis isThere).unstarted_deeds idle, if_pos rfl]
            exact .started now _ _
          · rw [if_neg other, List.append_nil]
            exact inductionHypothesis before
      | react now isThere waits reaction =>
          rw [takeTurn_deeds, deedsOf_append, Turn.deedsOf_deeds]
          rcases takeTurn_found found with ⟨rfl, rfl⟩ | ⟨other, before⟩
          · rw [if_pos rfl]
            exact .reacted now (waits ▸ inductionHypothesis isThere) reaction
          · rw [if_neg other, List.append_nil]
            exact inductionHypothesis before
      | poll scene stage since =>
          simpa using inductionHypothesis found
      | receive now signal =>
          simpa using inductionHypothesis found
      | queue signals => exact inductionHypothesis found

/-- Nobody but the calls of a timeline does anything on it. -/
theorem Fresh.strangers (fresh : origin.Fresh)
    (reached : origin.Interleaves backend settings timeline) {index : Nat}
    (missing : timeline.calls[index]? = none) : deedsOf index timeline.service.deeds = [] := by
  induction reached with
  | refl => simp [fresh.deeds]
  | @step before next prior transition inductionHypothesis =>
      have taken : ∀ {scene began turn call}, before.calls[scene.call]? = some call →
          (before.takeTurn backend scene began turn call).calls[index]? = none →
          deedsOf index (before.takeTurn backend scene began turn call).service.deeds = [] := by
        intro scene began turn call found missing
        rw [takeTurn_calls, List.getElem?_set] at missing
        have inside := (List.getElem?_eq_some_iff.mp found).1
        rw [takeTurn_deeds, deedsOf_append, Turn.deedsOf_deeds]
        split at missing
        · next same => simp at missing
        · next other => simp [inductionHypothesis missing, Ne.symm other]
      cases transition with
      | start now found idle => exact taken found missing
      | react now found waits reaction => exact taken found missing
      | poll scene stage since => simpa using inductionHypothesis missing
      | receive now signal => simpa using inductionHypothesis missing
      | queue signals => exact inductionHypothesis missing

/-- Whatever is not the status of a call stays as it is. -/
theorem Interleaves.plans (reached : origin.Interleaves backend settings timeline) :
    timeline.sequential = origin.sequential ∧
      timeline.calls.map (fun call => { call with status := .notStarted }) =
        origin.calls.map fun call => { call with status := .notStarted } := by
  have kept : ∀ {before : Timeline World Show Signal} {scene began turn call},
      before.calls[scene.call]? = some call →
      (before.takeTurn backend scene began turn call).calls.map
          (fun call => { call with status := .notStarted }) =
        before.calls.map fun call => { call with status := .notStarted } := by
    intro before scene began turn call found
    have same : (before.calls.map fun call => { call with status := .notStarted })[scene.call]? =
        some { call with status := .notStarted } := by simp [found]
    rw [takeTurn_calls, List.map_set]
    obtain ⟨inside, plan⟩ := List.getElem?_eq_some_iff.mp same
    rw [← plan, List.set_getElem_self]
  induction reached with
  | refl => exact ⟨rfl, rfl⟩
  | step prior transition inductionHypothesis =>
      obtain ⟨sequential, plans⟩ := inductionHypothesis
      cases transition with
      | start now found idle => exact ⟨sequential, (kept found).trans plans⟩
      | react now found waits reaction => exact ⟨sequential, (kept found).trans plans⟩
      | poll scene stage since => exact ⟨sequential, plans⟩
      | receive now signal => exact ⟨sequential, plans⟩
      | queue signals => exact ⟨sequential, plans⟩

theorem Interleaves.orders (reached : origin.Interleaves backend settings timeline) :
    timeline.calls.map (·.order) = origin.calls.map (·.order) := by
  simpa [Function.comp_def] using congrArg (List.map (·.order)) reached.plans.2

/-- The turns that calls of a timeline can take, with their scenes. -/
inductive Takes (settings : Settings) (timeline : Timeline World Show Signal) (call : Call) :
    Scene → Turn → Prop where
  | start {index} (now : Nat) (found : timeline.calls[index]? = some call)
      (idle : call.status = .notStarted) :
      Takes settings timeline call ⟨now, index, timeline.service.opened + 1⟩
        (call.order.start timeline.service.busy)
  | react {index attempt awaited session since began turn} (now : Nat)
      (found : timeline.calls[index]? = some call)
      (waits : call.status = .waiting attempt awaited session since began)
      (reaction : attempt.Reacts settings awaited turn) :
      Takes settings timeline call ⟨now, index, session⟩ turn

/-- Every deed was done in some turn that was taken on the way. -/
theorem Interleaves.taken (reached : origin.Interleaves backend settings timeline)
    (silent : origin.service.deeds = []) {past future : List Deed} {deed : Deed}
    (journal : timeline.service.deeds = past ++ deed :: future) :
    ∃ before call scene turn part rest later, origin.Interleaves backend settings before ∧
      before.Takes settings call scene turn ∧ turn.deeds scene = part ++ deed :: rest ∧
      past = before.service.deeds ++ part ∧ future = rest ++ later := by
  induction reached generalizing future with
  | refl => simp [silent] at journal
  | @step timeline next prior transition inductionHypothesis =>
      have splits : ∀ {call scene began turn}, timeline.Takes settings call scene turn →
          (timeline.takeTurn backend scene began turn call).service.deeds =
            past ++ deed :: future →
          ∃ before call scene turn part rest later, origin.Interleaves backend settings before ∧
            before.Takes settings call scene turn ∧ turn.deeds scene = part ++ deed :: rest ∧
            past = before.service.deeds ++ part ∧ future = rest ++ later := by
        intro call scene began turn takes journal
        rw [takeTurn_deeds, List.append_eq_append_iff] at journal
        rcases journal with ⟨part, same, block⟩ | ⟨rest, same, block⟩
        · exact ⟨timeline, call, scene, turn, part, future, [], prior, takes, block, same,
            (List.append_nil _).symm⟩
        · cases rest with
          | nil =>
              refine ⟨timeline, call, scene, turn, [], future, [], prior, takes, ?_, ?_, ?_⟩
              · simpa using block.symm
              · simpa using same.symm
              · simp
          | cons first rest =>
              rw [List.cons_append, List.cons.injEq] at block
              obtain ⟨rfl, rfl⟩ := block
              obtain ⟨before, taker, present, taken, part, left, later, reached, takes, block,
                start, rfl⟩ := inductionHypothesis same
              exact ⟨before, taker, present, taken, part, left, later ++ turn.deeds scene,
                reached, takes, block, start, by simp⟩
      cases transition with
      | start now found idle => exact splits (.start now found idle) journal
      | react now found waits reaction => exact splits (.react now found waits reaction) journal
      | poll scene stage since => exact inductionHypothesis (by simpa using journal)
      | receive now signal => exact inductionHypothesis (by simpa using journal)
      | queue signals => exact inductionHypothesis journal

/-- Every deed was done in a turn of its scene, which parts at it as the deeds do. -/
theorem Interleaves.parted (reached : origin.Interleaves backend settings timeline)
    (silent : origin.service.deeds = []) {past future : List Deed} {scene : Scene}
    {action : Action} (journal : timeline.service.deeds = past ++ ⟨scene, action⟩ :: future) :
    ∃ before call turn first second later, origin.Interleaves backend settings before ∧
      before.Takes settings call scene turn ∧ turn.actions = first ++ action :: second ∧
      past = before.service.deeds ++ first.map (Deed.mk scene) ∧
      future = second.map (Deed.mk scene) ++ later := by
  obtain ⟨before, call, present, turn, part, rest, later, prior, takes, block, rfl, rfl⟩ :=
    reached.taken silent journal
  obtain ⟨first, others, actions, rfl, same⟩ := List.map_eq_append_iff.mp block
  obtain ⟨_, second, rfl, does, rfl⟩ := List.map_eq_cons_iff.mp same
  cases does
  exact ⟨before, call, turn, first, second, later, prior, takes, actions, rfl, rfl⟩

end Timeline

end Storefront
