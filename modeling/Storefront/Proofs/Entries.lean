import Storefront.Proofs.Accounting
import Storefront.Proofs.Routing

/-!
# The switchboard holds live requests only

An entry of a switchboard is a handle that waits on it, with the kind of answer it waits for.
Every entry belongs to a call that waits for it in an open session, at all times and in any order
of turns; that is kept turn by turn. The other direction needs calls that went as far as they can:
after each moment of a run, whoever waits has its entry.
-/

namespace Storefront

namespace Switchboard

variable {board : Switchboard}

/-- The kind of answer that is waited for under a handle, if one is. -/
def entryKind? (board : Switchboard) (handle : Handle) : Option Kind :=
  (board.waiting? handle).map (·.kind)

/-- The handles that wait, each with the kind of answer it waits for. -/
def entries (board : Switchboard) : List (Handle × Kind) :=
  (board.requests.filter (·.isOpen)).map fun request => (request.handle, request.kind)

theorem mem_entries {handle : Handle} {kind : Kind} :
    (handle, kind) ∈ board.entries ↔ ∃ request ∈ board.requests,
      request.isOpen = true ∧ request.handle = handle ∧ request.kind = kind := by
  simp [entries, and_assoc]

/-- Where something is waited for, there is an entry. -/
theorem mem_entries_of_kind {handle : Handle} {kind : Kind}
    (waits : board.entryKind? handle = some kind) : (handle, kind) ∈ board.entries := by
  obtain ⟨request, found, rfl⟩ := Option.map_eq_some_iff.mp waits
  have own := List.find?_some found
  simp only [Bool.and_eq_true, decide_eq_true_eq] at own
  exact mem_entries.mpr ⟨request, List.mem_of_find?_eq_some found, own.2, own.1, rfl⟩

/-- A callback finds nobody where there is no entry. -/
theorem route_finished {handle : Handle} (nothing : board.entryKind? handle = none)
    (callback : Callback) : (board.route handle callback).1 = .finished := by
  rw [route_outcome, Option.map_eq_none_iff.mp nothing]

/-- Whatever closes what waits under a handle removes the handle's entry and no other. -/
theorem mem_entries_modifyWaiting {handle other : Handle} {kind : Kind}
    {change : Request → Request} (closes : ∀ request, (change request).isOpen = false) :
    (other, kind) ∈ (board.modifyWaiting handle change).entries ↔
      (other, kind) ∈ board.entries ∧ other ≠ handle := by
  simp only [mem_entries, modifyWaiting, List.mem_map]
  constructor
  · rintro ⟨_, ⟨request, among, rfl⟩, isOpen, rfl, rfl⟩
    by_cases closed : request.handle = handle ∧ request.isOpen = true
    · simp [closed, closes] at isOpen
    · have spared : (request.handle = handle && request.isOpen) = false := by simpa using closed
      simp only [spared, Bool.false_eq_true, if_false] at isOpen ⊢
      exact ⟨⟨request, among, isOpen, rfl, rfl⟩, fun same => closed ⟨same, isOpen⟩⟩
  · rintro ⟨⟨request, among, isOpen, rfl, rfl⟩, foreign⟩
    exact ⟨request, ⟨request, among, by simp [foreign]⟩, isOpen, rfl, rfl⟩

theorem mem_entries_forget {handle other : Handle} {kind : Kind} :
    (other, kind) ∈ (board.forget handle).entries ↔
      (other, kind) ∈ board.entries ∧ other ≠ handle :=
  mem_entries_modifyWaiting fun _ => rfl

/-- Who asks has an entry, in the place of the one it had. -/
theorem mem_entries_expect {handle other : Handle} {asked kind : Kind} :
    (other, kind) ∈ (board.expect handle asked).entries ↔
      (other, kind) = (handle, asked) ∨ (other, kind) ∈ board.entries ∧ other ≠ handle := by
  have parts : (board.expect handle asked).entries =
      (board.forget handle).entries ++ [(handle, asked)] := by
    simp [entries, expect]
  rw [parts, List.mem_append, mem_entries_forget, List.mem_singleton, or_comm]

/-- Nothing but asking makes an entry. -/
theorem mem_entries_of_perform {operation : Operation} {handle : Handle} {kind : Kind}
    (askless : ∀ handle kind, operation ≠ .expect handle kind)
    (member : (handle, kind) ∈ (board.perform operation).entries) :
    (handle, kind) ∈ board.entries := by
  cases operation with
  | expect other asked => exact absurd rfl (askless other asked)
  | forget other => exact (mem_entries_forget.mp member).1
  | callback other callback =>
      rw [perform, route_board] at member
      split at member
      · exact member
      · split at member
        · exact ((mem_entries_modifyWaiting fun _ => rfl).mp member).1
        · exact member
  | poll slot =>
      obtain ⟨request, among, isOpen, rfl, rfl⟩ := mem_entries.mp member
      obtain ⟨index, found⟩ := List.getElem?_of_mem among
      rw [perform, collect_getElem?, Option.map_eq_some_iff] at found
      obtain ⟨before, isThere, rfl⟩ := found
      refine mem_entries.mpr ⟨before, List.mem_of_getElem? isThere, ?_⟩
      by_cases looks : slot = index
      · cases mailbox : before.mailbox <;> simp_all [Request.collect]
      · simpa [looks] using isOpen
  | drop slot =>
      obtain ⟨request, among, isOpen, rfl, rfl⟩ := mem_entries.mp member
      obtain ⟨index, found⟩ := List.getElem?_of_mem among
      rw [perform, drop_getElem?, Option.map_eq_some_iff] at found
      obtain ⟨before, isThere, rfl⟩ := found
      refine mem_entries.mpr ⟨before, List.mem_of_getElem? isThere, ?_⟩
      by_cases drops : slot = index <;> simpa [drops] using isOpen

/-- The last request under a handle is the handle's entry as long as it is open. -/
theorem Latest.entryKind? {slot : Nat} {handle : Handle} {kind : Kind} {mailbox : Mailbox}
    (latest : board.Latest slot ⟨handle, kind, true, mailbox⟩) (orderly : board.Orderly) :
    board.entryKind? handle = some kind := by
  have waits : board.waiting? handle = some ⟨handle, kind, true, mailbox⟩ :=
    waiting?_eq orderly latest.found rfl
  rw [Switchboard.entryKind?, waits]
  rfl

end Switchboard

/-! What turns do to the entries. -/

/-- What a turn does to the switchboard when it is taken in a session. -/
def Turn.operations (turn : Turn) (session : Nat) : List Operation :=
  turn.actions.filterMap (Action.operation? session)

/-- Actions that neither ask nor end the session do nothing to the switchboard. -/
theorem filterMap_operation?_of_calm {actions : List Action}
    (calm : ∀ action ∈ actions, action.leaves = false) (session : Nat) :
    actions.filterMap (Action.operation? session) = [] := by
  apply List.filterMap_eq_nil_iff.mpr
  intro action member
  have stays := calm action member
  cases action <;> simp_all [Action.leaves, Action.operation?]

theorem Action.leaves_of_isRemark {action : Action} (remark : action.isRemark = true) :
    action.leaves = false := by
  cases action <;> simp_all [Action.leaves]

/-- A first turn asks under its session if its call goes on, and leaves the switchboard alone if
the call is over at once. -/
theorem Order.FirstTurn.operations {order : Order} {busy : Bool} {turn : Turn}
    (form : order.FirstTurn busy turn) (session : Nat) :
    turn.operations session =
      match turn.rest with
      | .waiting _ awaited => [.expect session awaited.stage.kind]
      | .finished _ => [] := by
  cases form with
  | @opened catalog remarks line accepted free quiet =>
      have said : remarks.filterMap (Action.operation? session) = [] :=
        filterMap_operation?_of_calm (fun _ member =>
          Action.leaves_of_isRemark (quiet _ member)) session
      have claimed : order.purpose.claim.filterMap (Action.operation? session) = [] := by
        cases order.purpose <;> rfl
      simp [Turn.operations, List.filterMap_cons, said, claimed, Action.operation?, Awaited.stage,
        Stage.kind, Question.kind]
  | unread | empty | notSingle | refused => rfl

/-- A later turn asks under its session if its call goes on, and leaves it otherwise. -/
theorem Attempt.NextTurn.operations {attempt : Attempt} {awaited : Awaited} {turn : Turn}
    (form : attempt.NextTurn awaited turn) (session : Nat) :
    turn.operations session =
      match turn.rest with
      | .waiting _ ahead => [.expect session ahead.stage.kind]
      | .finished _ => [.forget session] := by
  have calm : ∀ {actions : List Action}, (∀ action ∈ actions, action.isRemark = true) →
      actions.filterMap (Action.operation? session) = [] := fun quiet =>
    filterMap_operation?_of_calm
      (fun _ member => Action.leaves_of_isRemark (quiet _ member)) session
  have yielded : attempt.purpose.yield.filterMap (Action.operation? session) = [] := by
    cases attempt.purpose <;> rfl
  cases form with
  | asks quiet same stage progress =>
      simp [Turn.operations, calm quiet, Action.operation?, ← stage]
  | @succeeds first outcome line speech =>
      have said : first.filterMap (Action.operation? session) = [] := by
        apply filterMap_operation?_of_calm
        intro action member
        rcases speech action member with remark | ⟨text, rfl⟩
        · exact Action.leaves_of_isRemark remark
        · rfl
      simp [Turn.operations, List.filterMap_cons, said, yielded, hangUp, Action.say,
        Action.operation?]
  | fails quiet still tried =>
      simp [Turn.operations, List.filterMap_cons, calm quiet, calm still, yielded, hangUp,
        Action.say, Action.operation?]
  | cancelled =>
      simp [Turn.operations, List.filterMap_cons, yielded, hangUp, Action.say, Action.operation?]

theorem Service.performAll_world (quiet : Bool) (scene : Scene)
    (service : Service Switchboard Recorded) (actions : List Action) :
    (service.performAll (routed quiet) scene actions).world =
      service.world.performAll (actions.filterMap (Action.operation? scene.session)) := by
  induction actions generalizing service with
  | nil => rfl
  | cons action rest inductionHypothesis =>
      rw [performAll_cons, inductionHypothesis, perform_world, routed_act]
      cases does : action.operation? scene.session <;> simp [does, Switchboard.performAll]

/-- A call that waits asked for what it waits for when it began to wait. -/
theorem Story.asking {settings : Settings} {order : Order} {index : Nat} {status : Status}
    {deeds : List Deed} (story : Story settings order index status deeds) {attempt : Attempt}
    {awaited : Awaited} {session since began : Nat}
    (waits : status = .waiting attempt awaited session since began) :
    ∃ question, question.stage = awaited.stage ∧
      ⟨⟨since, index, session⟩, .ask question⟩ ∈ deeds := by
  have last : ∀ {turn : Turn} {scene : Scene} {start : Nat}, scene.call = index →
      (∀ {later ahead}, turn.rest = .waiting later ahead →
        ∃ actions question, turn.Asks ahead actions question) →
      turn.rest.status scene start = .waiting attempt awaited session since began →
      ∃ question, question.stage = awaited.stage ∧
        ⟨⟨since, index, session⟩, .ask question⟩ ∈ turn.deeds scene := by
    intro turn scene start own asks waits
    cases rest : turn.rest with
    | waiting later ahead =>
        obtain ⟨actions, question, does⟩ := asks rest
        simp only [rest, Rest.status, Status.waiting.injEq] at waits
        obtain ⟨rfl, rfl, rfl, rfl, rfl⟩ := waits
        refine ⟨question, does.stage, (Turn.mem_deeds _ _).mpr ⟨?_, by simp [does.asks]⟩⟩
        rw [← own]
    | finished ending => simp [rest, Rest.status] at waits
  cases story with
  | unstarted => simp at waits
  | started now opened busy =>
      exact last rfl (fun rest => (order.start_firstTurn busy).asks_last rest) waits
  | reacted now prior reaction =>
      obtain ⟨question, stage, asked⟩ :=
        last rfl (fun rest => (reaction.nextTurn.asks_last rest).2) waits
      exact ⟨question, stage, List.mem_append_right _ asked⟩

namespace Timeline

variable {quiet : Bool} {settings : Settings}
  {origin timeline : Timeline Switchboard Recorded Signal}

/-- Some call waits for an answer of a kind in the session that a handle names. -/
def Awaiting (timeline : Timeline Switchboard Recorded Signal) (handle : Handle) (kind : Kind) :
    Prop :=
  ∃ (index : Nat) (call : Call) (attempt : Attempt) (awaited : Awaited)
    (session since began : Nat), timeline.calls[index]? = some call ∧
      call.status = .waiting attempt awaited session since began ∧
      handle = session ∧ kind = awaited.stage.kind

/-- Every entry of the switchboard belongs to a call that waits for it. -/
def Owned (timeline : Timeline Switchboard Recorded Signal) : Prop :=
  ∀ handle kind, (handle, kind) ∈ timeline.service.world.entries → timeline.Awaiting handle kind

/-- Whoever waits under another handle than the call that takes a turn waits on. -/
theorem Awaiting.takeTurn {handle : Handle} {kind : Kind} (awaiting : timeline.Awaiting handle kind)
    {scene : Scene} {start : Nat} {turn : Turn} {taker : Call}
    (isThere : timeline.calls[scene.call]? = some taker)
    (foreign : ∀ attempt awaited session since began,
      taker.status = .waiting attempt awaited session since began → handle ≠ session) :
    (timeline.takeTurn (routed quiet) scene start turn taker).Awaiting handle kind := by
  obtain ⟨index, call, attempt, awaited, session, since, began, found, waits, rfl, rfl⟩ := awaiting
  have other : scene.call ≠ index := by
    rintro rfl
    rw [isThere, Option.some.injEq] at found
    exact foreign _ _ _ _ _ (found ▸ waits) rfl
  refine ⟨index, call, attempt, awaited, session, since, began, ?_, waits, rfl, rfl⟩
  rw [takeTurn_calls, List.getElem?_set_ne other, found]

/-- A call that waits after its turn is waiting for the answer it waits for. -/
theorem awaiting_taker {scene : Scene} {start : Nat} {turn : Turn} {taker : Call}
    (isThere : timeline.calls[scene.call]? = some taker) {later : Attempt} {ahead : Awaited}
    (waits : turn.rest = .waiting later ahead) :
    (timeline.takeTurn (routed quiet) scene start turn taker).Awaiting scene.session
      ahead.stage.kind := by
  have inside := (List.getElem?_eq_some_iff.mp isThere).1
  refine ⟨scene.call, { taker with status := turn.rest.status scene start }, later, ahead,
    scene.session, scene.now, start, ?_, ?_, rfl, rfl⟩
  · rw [takeTurn_calls, List.getElem?_set_self inside]
  · simp [waits, Rest.status]

/-- A turn keeps every entry with a call that waits for it. -/
theorem Owned.takeTurn (owned : timeline.Owned) {scene : Scene} {start : Nat} {turn : Turn}
    {taker : Call} (isThere : timeline.calls[scene.call]? = some taker)
    (own : ∀ attempt awaited session since began,
      taker.status = .waiting attempt awaited session since began → session = scene.session)
    (operations : (∃ later ahead, turn.rest = .waiting later ahead ∧
        turn.operations scene.session = [.expect scene.session ahead.stage.kind]) ∨
      turn.operations scene.session = [.forget scene.session] ∨
      turn.operations scene.session = [] ∧ taker.status = .notStarted) :
    (timeline.takeTurn (routed quiet) scene start turn taker).Owned := by
  intro handle kind member
  have world : (timeline.takeTurn (routed quiet) scene start turn taker).service.world =
      timeline.service.world.performAll (turn.operations scene.session) := by
    rw [takeTurn_service]
    exact Service.performAll_world ..
  have others : (handle, kind) ∈ timeline.service.world.entries → handle ≠ scene.session →
      (timeline.takeTurn (routed quiet) scene start turn taker).Awaiting handle kind := by
    intro before foreign
    refine (owned handle kind before).takeTurn isThere fun _ _ _ _ _ waits same => foreign ?_
    rw [same, own _ _ _ _ _ waits]
  rw [world] at member
  rcases operations with ⟨later, ahead, waits, expects⟩ | forgets | ⟨nothing, idle⟩
  · rw [expects] at member
    rcases Switchboard.mem_entries_expect.mp member with new | ⟨before, foreign⟩
    · cases new
      exact awaiting_taker isThere waits
    · exact others before foreign
  · rw [forgets] at member
    obtain ⟨before, foreign⟩ := Switchboard.mem_entries_forget.mp member
    exact others before foreign
  · rw [nothing] at member
    refine (owned handle kind member).takeTurn isThere fun _ _ _ _ _ waits => ?_
    simp [idle] at waits

/-- Entries that go away leave no other with nobody who waits for it. -/
theorem Owned.fewer (owned : timeline.Owned) {service : Service Switchboard Recorded}
    (fewer : ∀ handle kind, (handle, kind) ∈ service.world.entries →
      (handle, kind) ∈ timeline.service.world.entries) :
    Owned { timeline with service := service } :=
  fun handle kind member => owned handle kind (fewer handle kind member)

/-- A call that starts keeps every entry with a call that waits for it. -/
theorem Owned.start (owned : timeline.Owned) {index : Nat} {taker : Call}
    (found : timeline.calls[index]? = some taker) (idle : taker.status = .notStarted)
    (now session : Nat) (busy : Bool) :
    (timeline.takeTurn (routed quiet) ⟨now, index, session⟩ now (taker.order.start busy)
      taker).Owned := by
  have operations := (taker.order.start_firstTurn busy).operations session
  refine owned.takeTurn found (by simp [idle]) ?_
  cases rest : (taker.order.start busy).rest with
  | waiting later ahead => exact .inl ⟨later, ahead, rfl, by simpa [rest] using operations⟩
  | finished ending => exact .inr (.inr ⟨by simpa [rest] using operations, idle⟩)

/-- So does a call that goes on. -/
theorem Owned.react (owned : timeline.Owned) {index : Nat} {taker : Call} {attempt : Attempt}
    {awaited : Awaited} {session since began : Nat} {turn : Turn}
    (found : timeline.calls[index]? = some taker)
    (waits : taker.status = .waiting attempt awaited session since began)
    (reaction : attempt.Reacts settings awaited turn) (now : Nat) :
    (timeline.takeTurn (routed quiet) ⟨now, index, session⟩ began turn taker).Owned := by
  have operations := reaction.nextTurn.operations session
  refine owned.takeTurn found (by simp +contextual [waits]) ?_
  cases rest : turn.rest with
  | waiting later ahead => exact .inl ⟨later, ahead, rfl, by simpa [rest] using operations⟩
  | finished ending => exact .inr (.inl (by simpa [rest] using operations))

/-- Every entry belongs to a call that waits for it, whatever calls and signals do. -/
theorem Interleaves.owned_entries (blank : origin.service.world = {})
    (reached : origin.Interleaves (routed quiet) settings timeline) : timeline.Owned := by
  induction reached with
  | refl =>
      intro handle kind member
      rw [blank] at member
      simp [Switchboard.entries] at member
  | @step before next prior transition owned =>
      cases transition with
      | start now found idle => exact owned.start found idle now _ _
      | react now found waits reaction => exact owned.react found waits reaction now
      | poll scene stage since =>
          refine owned.fewer fun handle kind member => ?_
          have world : (before.service.poll (routed quiet) scene stage since).2.world =
              (before.service.world.answer scene.session channelClosed).2 := rfl
          rw [world] at member
          rcases before.service.world.answer_board scene.session channelClosed with
            same | ⟨slot, _, _, _, took⟩
          · rwa [same] at member
          · rw [took] at member
            exact Switchboard.mem_entries_of_perform (by simp) member
      | receive now signal =>
          refine owned.fewer fun handle kind member => ?_
          rw [Service.receive_world] at member
          exact Switchboard.mem_entries_of_perform signal.operation_ne_expect member
      | queue signals => exact owned

/-- A session is open, and its call waits in the stage for which it made the request. -/
structure Requests (timeline : Timeline Switchboard Recorded Signal) (session : Nat)
    (kind : Kind) (index : Nat) (call : Call) : Prop where
  found : timeline.calls[index]? = some call
  isOpen : IsOpen timeline.service.deeds index session
  waits : ∃ attempt awaited since began,
    call.status = .waiting attempt awaited session since began ∧ awaited.stage.kind = kind ∧
      ∃ question, question.kind = kind ∧
        ⟨⟨since, index, session⟩, .ask question⟩ ∈ timeline.service.deeds

section Reached

variable (fresh : origin.Fresh) (reached : origin.Interleaves (routed quiet) settings timeline)
include fresh reached

/-- Whoever waits made the request it waits for, in a session that is open. -/
theorem Fresh.requests {index : Nat} {call : Call} (found : timeline.calls[index]? = some call)
    {attempt : Attempt} {awaited : Awaited} {session since began : Nat}
    (waits : call.status = .waiting attempt awaited session since began) :
    timeline.Requests session awaited.stage.kind index call := by
  obtain ⟨question, stage, asked⟩ := (fresh.story reached found).asking waits
  have unended : Action.endSession ∉ ([] : List Action) := by simp
  have isOpen := fresh.waiting_open reached found waits unended 0
  refine ⟨found, by simpa using isOpen, attempt, awaited, since, began, waits, rfl, question, ?_,
    (mem_deedsOf.mp asked).1⟩
  rw [← stage, question.stage_kind]

/-- The requests of the entries were made in sessions that are open. -/
theorem Fresh.entry_requested (blank : origin.service.world = {}) {handle : Handle} {kind : Kind}
    (waits : timeline.service.world.entryKind? handle = some kind) :
    ∃ (session index : Nat) (call : Call), handle = session ∧
      timeline.Requests session kind index call := by
  obtain ⟨index, call, attempt, awaited, session, since, began, found, still, rfl, rfl⟩ :=
    reached.owned_entries blank _ _ (Switchboard.mem_entries_of_kind waits)
  exact ⟨session, index, call, rfl, fresh.requests reached found still⟩

/-- A session that was ended has no entry. -/
theorem Fresh.ended_entry (blank : origin.service.world = {}) {scene : Scene}
    (ended : ⟨scene, .endSession⟩ ∈ timeline.service.deeds) :
    timeline.service.world.entryKind? scene.session = none := by
  apply Option.eq_none_iff_forall_ne_some.mpr
  intro kind waits
  obtain ⟨session, index, call, same, request⟩ := fresh.entry_requested reached blank waits
  exact request.isOpen.unended _ ended (by exact_mod_cast same) rfl

end Reached

/-- Callbacks that arrived on the handle of a session after its end found nobody waiting. -/
def Deserted (journal : List (Entry Recorded)) : Prop :=
  ∀ before after now (handle : Handle) callback routed,
    journal = before ++ ⟨now, none, .showed (.calledBack handle callback routed)⟩ :: after →
    ∀ scene : Scene, ⟨scene, .endSession⟩ ∈ before.filterMap Entry.deed? →
      handle = scene.session → routed = .finished

/-- A journal goes on as before if each callback in what is new finds nobody on the handle of an
ended session. -/
theorem Deserted.append {journal new : List (Entry Recorded)} (prior : Deserted journal)
    (more : ∀ part rest now (handle : Handle) callback routed,
      new = part ++ ⟨now, none, .showed (.calledBack handle callback routed)⟩ :: rest →
      ∀ scene : Scene, ⟨scene, .endSession⟩ ∈ (journal ++ part).filterMap Entry.deed? →
        handle = scene.session → routed = .finished) :
    Deserted (journal ++ new) := by
  intro before after now handle callback routed split scene ended same
  rcases List.append_eq_append_iff.mp split with ⟨part, rfl, block⟩ | ⟨rest, rfl, block⟩
  · exact more part after now handle callback routed block scene ended same
  · cases rest with
    | nil =>
        refine more [] after now handle callback routed (by simpa using block.symm) scene ?_ same
        simpa using ended
    | cons first rest =>
        rw [List.cons_append, List.cons.injEq] at block
        exact prior before rest now handle callback routed (by rw [block.1]) scene ended same

/-- What calls do and are shown is no callback. -/
theorem Deserted.did {journal new : List (Entry Recorded)} (prior : Deserted journal)
    (staged : ∀ entry ∈ new, entry.scene ≠ none) : Deserted (journal ++ new) := by
  refine prior.append fun part rest now handle callback routed split => ?_
  have among : (⟨now, none, .showed (.calledBack handle callback routed)⟩ : Entry Recorded) ∈
      new := by simp [split]
  exact absurd rfl (staged _ among)

/-- A callback that arrives finds nobody on the handle of an ended session, if that has no entry. -/
theorem Deserted.receive {service : Service Switchboard Recorded}
    (prior : Deserted service.journal) (quiet : Bool) (now : Nat) (signal : Signal)
    (gone : ∀ scene : Scene, ⟨scene, .endSession⟩ ∈ service.deeds →
      service.world.entryKind? scene.session = none) :
    Deserted (service.receive (routed quiet) now signal).journal := by
  refine prior.append fun part rest moment handle callback found split scene ended same => ?_
  have inNew : ∀ entry ∈ part ++
        ⟨moment, none, .showed (.calledBack handle callback found)⟩ :: rest,
      ∃ event ∈ ((routed quiet).receive signal service.world).1,
        ⟨now, none, .showed event⟩ = entry :=
    fun entry member => List.mem_map.mp (split ▸ member)
  -- What comes with the callback ends no session.
  have undone : part.filterMap Entry.deed? = [] := by
    apply List.filterMap_eq_nil_iff.mpr
    intro entry member
    obtain ⟨event, _, rfl⟩ := inNew entry (List.mem_append_left _ member)
    exact Entry.deed?_showed ..
  rw [List.filterMap_append, undone, List.append_nil] at ended
  obtain ⟨event, among, shown⟩ := inNew _ (List.mem_append_right _ (List.mem_cons_self ..))
  cases shown
  cases signal with
  | callback named arrived =>
      have outcome : handle = named ∧ callback = arrived ∧
          found = (service.world.route named arrived).1 := by
        simpa [routed] using among
      obtain ⟨rfl, rfl, rfl⟩ := outcome
      rw [same]
      exact Switchboard.route_finished (gone scene ended) _
  | forget named => simp [routed] at among

theorem performAll_staged (quiet : Bool) (scene : Scene) (service : Service Switchboard Recorded)
    (actions : List Action) :
    ∃ new, (service.performAll (routed quiet) scene actions).journal = service.journal ++ new ∧
      ∀ entry ∈ new, entry.scene ≠ none := by
  induction actions generalizing service with
  | nil => exact ⟨[], by simp [Service.performAll], by simp⟩
  | cons action rest inductionHypothesis =>
      obtain ⟨new, journal, staged⟩ := inductionHypothesis
        (Service.perform (routed quiet) scene service action)
      rw [Service.performAll_cons, journal, Service.perform_journal, List.append_assoc]
      refine ⟨_, rfl, fun entry member => ?_⟩
      simp only [List.cons_append, List.mem_cons, List.mem_append, List.mem_map] at member
      rcases member with rfl | ⟨event, _, rfl⟩ | later
      · simp
      · simp
      · exact staged entry later

/-- After the end of a session, every callback on its handle finds nobody waiting. -/
theorem Fresh.deserted (fresh : origin.Fresh) (blank : origin.service.world = {})
    (reached : origin.Interleaves (routed quiet) settings timeline) :
    Deserted timeline.service.journal := by
  induction reached with
  | refl =>
      intro before after now handle callback routed split
      simp [fresh.blank] at split
  | @step before next prior transition deserted =>
      have taken : ∀ scene start turn taker, Deserted
          (before.takeTurn (routed quiet) scene start turn taker).service.journal := by
        intro scene start turn taker
        obtain ⟨new, journal, staged⟩ :=
          performAll_staged quiet scene before.service turn.actions
        rw [takeTurn_service, journal]
        exact deserted.did staged
      cases transition with
      | start now found idle => exact taken _ _ _ _
      | react now found waits reaction => exact taken _ _ _ _
      | poll scene stage since =>
          have silent : (before.service.poll (routed quiet) scene stage since).2.journal =
              before.service.journal := by
            simp [Service.poll, Service.note, routed]
          rw [silent]
          exact deserted
      | receive now signal =>
          exact deserted.receive quiet now signal fun scene ended =>
            fresh.ended_entry prior blank ended
      | queue signals => exact deserted

/-- What the entries of a switchboard tell about the calls, at any time. -/
structure Tidy (timeline : Timeline Switchboard Recorded Signal) : Prop where
  /-- Each entry is that of an open session whose call waits for it. -/
  live : ∀ handle kind, timeline.service.world.entryKind? handle = some kind →
    ∃ (session index : Nat) (call : Call), handle = session ∧
      timeline.Requests session kind index call
  /-- A session that was ended has no entry. -/
  ended : ∀ scene : Scene, ⟨scene, .endSession⟩ ∈ timeline.service.deeds →
    timeline.service.world.entryKind? scene.session = none
  /-- After the end of a session every callback on its handle found nobody waiting. -/
  finished : Deserted timeline.service.journal
  /-- When all calls are over, nothing is left. -/
  emptied : (∀ call ∈ timeline.calls, call.isOver = true) →
    timeline.service.world.entries = []

theorem Fresh.tidy (fresh : origin.Fresh) (blank : origin.service.world = {})
    (reached : origin.Interleaves (routed quiet) settings timeline) : timeline.Tidy where
  live handle kind waits := fresh.entry_requested reached blank waits
  ended scene ended := fresh.ended_entry reached blank ended
  finished := fresh.deserted blank reached
  emptied allOver := by
    apply List.eq_nil_iff_forall_not_mem.mpr
    rintro ⟨handle, kind⟩ member
    obtain ⟨index, call, _, _, _, _, _, found, waits, _⟩ :=
      reached.owned_entries blank handle kind member
    have ends := allOver call (List.mem_of_getElem? found)
    simp [Call.isOver, waits] at ends

/-- After each moment of a run, whoever waits has its entry. -/
theorem Fresh.requested_entry (fresh : origin.Fresh) (blank : origin.service.world = {})
    (moments : Nat) {session index : Nat} {kind : Kind} {call : Call}
    (request : (origin.runFor (routed quiet) settings moments).Requests session kind index call) :
    (origin.runFor (routed quiet) settings moments).service.world.entryKind? session =
      some kind := by
  obtain ⟨attempt, awaited, since, began, waits, rfl, _⟩ := request.waits
  have found := request.found
  rcases runFor_reached (routed quiet) settings origin moments with same | ⟨now, reached⟩
  · rw [same] at found
    rw [fresh.idle call (List.mem_of_getElem? found)] at waits
    simp at waits
  · have attended := fresh.attended blank reached
    obtain ⟨_, _, _, _, _, _, _, listens⟩ := attended.asked _ _ _ _ _ _ _ found waits
    cases listens with
    | waiting silent latest => exact latest.entryKind? attended.orderly
    | answered early =>
        have inside := (List.getElem?_eq_some_iff.mp found).1
        omega

/-- The switchboard holds live requests only, and all of them. In a run of any calls whose answers
arrive as callbacks, with any signals on any handles, after each moment a handle has an entry
exactly if it is the number of an open session whose call waits in the stage for which it made the
request under the handle, and the entry is of the kind of that stage. At any time between, and in
any order of turns, an ended session has no entry and all later callbacks on it find nobody, and
when all calls are over no entry is left. -/
theorem requests_live (quiet : Bool) (settings : Settings)
    {origin : Timeline Switchboard Recorded Signal} (fresh : origin.Fresh)
    (blank : origin.service.world = {}) :
    (∀ (moments : Nat) (handle : Handle) (kind : Kind),
        (origin.runFor (routed quiet) settings moments).service.world.entryKind? handle =
            some kind ↔
          ∃ (session index : Nat) (call : Call), handle = session ∧
            (origin.runFor (routed quiet) settings moments).Requests session kind index call) ∧
      ∀ timeline, origin.Interleaves (routed quiet) settings timeline → timeline.Tidy := by
  refine ⟨fun moments handle kind => ⟨fun waits => ?_, ?_⟩,
    fun timeline reached => fresh.tidy blank reached⟩
  · exact fresh.entry_requested (runFor_interleaves (routed quiet) settings origin moments) blank
      waits
  · rintro ⟨session, index, call, rfl, request⟩
    exact fresh.requested_entry blank moments request

/-- A lookup and a purchase whose connection is lost, with callbacks for both after that. -/
def belated : Timeline Switchboard Recorded Signal where
  calls :=
    let premium : Catalog.Canonical := ⟨[⟨false, "subs", "premium"⟩]⟩
    [{ order := ⟨.lookup, .catalog premium, "activity"⟩ },
      { order := ⟨.purchase, .catalog premium, "activity"⟩ }]
  signals :=
    [(2, .callback 1 (.setupFinished {})), (3, .callback 2 .disconnected),
      (3, .callback 2 (.setupFinished {})), (4, .callback 1 (.skuDetails {}))]
  service := { world := {} }

/-- After the purchase lost its connection, the lookup alone has an entry; in the end nobody. -/
theorem belated_live :
    (∃ index call, (belated.runFor (routed true) {} 3).Requests 1 .skuDetails index call) ∧
      (belated.runFor (routed true) {} 3).service.world.entryKind? 2 = none ∧
      (belated.run (routed true) {}).Tidy ∧
      (belated.run (routed true) {}).service.world.entries = [] := by
  have fresh : belated.Fresh := ⟨by decide, rfl, rfl, rfl⟩
  obtain ⟨live, tidy⟩ := requests_live true {} fresh rfl
  have tidied := tidy _ (run_interleaves (routed true) {} belated)
  refine ⟨?_, by decide +kernel, tidied, tidied.emptied (by decide +kernel)⟩
  obtain ⟨session, index, call, same, request⟩ :=
    (live 3 1 .skuDetails).mp (by decide +kernel)
  obtain rfl : 1 = session := by exact_mod_cast same
  exact ⟨index, call, request⟩

end Timeline

end Storefront
