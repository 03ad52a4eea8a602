import Storefront.Proofs.Hearing
import Storefront.Proofs.Natives

/-!
# Callbacks and sessions on a bridge

Sessions ask at the switchboard of the bridge under their own handles, and callbacks of any
handle arrive there. Whoever waits has the one open request of its handle, `Sound.asked`, and an
answer that arrived is held until its session looks for it, whatever the others do meanwhile.
-/

namespace Storefront

namespace Switchboard

variable {board : Switchboard}

/-- No request that is open was answered, and of each handle the last alone may be open. -/
structure Sound (board : Switchboard) : Prop where
  orderly : board.Orderly
  empty : ∀ request ∈ board.requests, request.isOpen = true → request.mailbox = .empty

theorem sound_empty : Sound {} :=
  ⟨List.Pairwise.nil, by simp⟩

/-- What is closed need not be empty. -/
theorem empty_modifyWaiting
    (empty : ∀ request ∈ board.requests, request.isOpen = true → request.mailbox = .empty)
    (handle : Handle) {change : Request → Request}
    (closes : ∀ request, (change request).isOpen = false) :
    ∀ request ∈ (board.modifyWaiting handle change).requests, request.isOpen = true →
      request.mailbox = .empty := by
  intro request member isOpen
  obtain ⟨before, among, rfl⟩ := List.mem_map.mp member
  by_cases changed : (before.handle = handle && before.isOpen) = true
  · rw [if_pos changed, closes] at isOpen
    cases isOpen
  · rw [if_neg changed] at isOpen ⊢
    exact empty before among isOpen

theorem Sound.perform (sound : board.Sound) {operation : Operation}
    (keeps : ∀ slot, operation ≠ .drop slot) : (board.perform operation).Sound := by
  refine ⟨sound.orderly.perform operation, ?_⟩
  cases operation with
  | expect handle kind =>
      intro request member
      rcases List.mem_append.mp member with before | new
      · exact empty_modifyWaiting sound.empty handle (fun _ => rfl) request before
      · exact fun _ => List.mem_singleton.mp new ▸ rfl
  | forget handle => exact empty_modifyWaiting sound.empty handle fun _ => rfl
  | callback handle callback =>
      rw [Switchboard.perform, route_board]
      split
      · exact sound.empty
      · split
        · exact empty_modifyWaiting sound.empty handle fun _ => rfl
        · exact sound.empty
  | poll slot =>
      intro request member isOpen
      rw [Switchboard.perform, collect] at member
      cases found : board.requests[slot]? with
      | none =>
          rw [found] at member
          exact sound.empty request member isOpen
      | some own =>
          simp only [found] at member
          rcases List.mem_or_eq_of_mem_set member with before | rfl
          · exact sound.empty request before isOpen
          · have empty := sound.empty own (List.mem_of_getElem? found)
            cases mailbox : own.mailbox <;> simp_all [Request.collect]
  | drop slot => exact absurd rfl (keeps slot)

/-- Whoever waits has the last request under the handle. -/
theorem Sound.asked (sound : board.Sound) {handle : Handle} {request : Request}
    (waits : board.waiting? handle = some request) :
    ∃ slot, board.Latest slot ⟨handle, request.kind, true, .empty⟩ := by
  have opens := List.find?_some waits
  have member := List.mem_of_find?_eq_some waits
  simp only [Bool.and_eq_true, decide_eq_true_eq] at opens
  obtain ⟨slot, found⟩ := List.mem_iff_getElem?.mp member
  have whole : request = ⟨handle, request.kind, true, .empty⟩ := by
    rw [← opens.1, ← opens.2, ← sound.empty request member opens.2]
  refine ⟨slot, whole ▸ found, fun later other after isThere same => ?_⟩
  obtain ⟨inside, rfl⟩ := List.getElem?_eq_some_iff.mp found
  obtain ⟨bound, rfl⟩ := List.getElem?_eq_some_iff.mp isThere
  have closed := List.pairwise_iff_getElem.mp sound.orderly slot later inside bound (by omega)
    (opens.1.trans same.symm)
  simp [opens.2] at closed

/-- A request is decided, and the last that was made under its handle. -/
structure Holds (board : Switchboard) (slot : Nat) (handle : Handle) (kind : Kind)
    (mailbox : Mailbox) : Prop where
  sound : board.Sound
  latest : board.Latest slot ⟨handle, kind, false, mailbox⟩

/-- Nothing but asking again, and looking into its mailbox, changes what it holds. -/
theorem Holds.perform {slot : Nat} {handle : Handle} {kind : Kind} {mailbox : Mailbox}
    (holds : board.Holds slot handle kind mailbox) {operation : Operation}
    (unasked : ∀ kind, operation ≠ .expect handle kind) (unread : operation ≠ .poll slot)
    (keeps : ∀ slot, operation ≠ .drop slot) :
    (board.perform operation).Holds slot handle kind mailbox := by
  have same : Request.follow slot ⟨handle, kind, false, mailbox⟩ operation =
      ⟨handle, kind, false, mailbox⟩ := by
    cases operation with
    | expect other asked => simp [Request.follow]
    | forget other => simp [Request.follow]
    | callback other arrived => simp [Request.follow]
    | poll other => simp [Request.follow, show other ≠ slot from fun equal => unread (equal ▸ rfl)]
    | drop other => exact absurd rfl (keeps other)
  have kept := holds.latest.perform holds.sound.orderly unasked
  rw [same] at kept
  exact ⟨holds.sound.perform keeps, kept⟩

end Switchboard

/-- Whether an operation is what a session does under its handle, or a callback of it. -/
def Operation.isUnder (handle : Handle) : Operation → Bool
  | expect other _ | forget other | callback other _ => other = handle
  | poll _ | drop _ => false

namespace Host

/-- The callback that answers a question which could not be issued. -/
def refusalOf (question : Question) : Callback :=
  match question with
  | .setup => .setupFinished (notIssued question).result
  | .offers .. => .skuDetails ⟨(notIssued question).result, none⟩
  | .launch .. => .launched (notIssued question).result

variable {board : Switchboard} {detached : Bool} {settings : Settings}

theorem settle_refusal (orderly : board.Orderly) (handle : Handle) (question : Question) :
    (board.expect handle question.kind).settle handle (notIssued question) =
      (board.expect handle question.kind).perform (.callback handle (refusalOf question)) := by
  have waits := Switchboard.waiting?_eq (orderly.perform (.expect handle question.kind))
    (board.latest_expect handle question.kind).found rfl
  rw [Switchboard.perform, Switchboard.route_board]
  simp only [Switchboard.perform] at waits
  rw [waits]
  cases question <;> rfl

variable (detached) in
/-- What a call does to the switchboard of a bridge, it does under the handle of its session. -/
theorem act_board (orderly : board.Orderly) (scene : Scene) (action : Action) (machine : Machine) :
    ∃ operations, ((hosted detached).act scene action ⟨machine, board⟩).2.board =
        board.performAll operations ∧
      ∀ operation ∈ operations, operation.isUnder scene.session = true := by
  cases action with
  | ask question =>
      cases issued : (machine.request detached (questionSteps scene.session question)).1 with
      | true =>
          refine ⟨[.expect scene.session question.kind], ?_, by simp [Operation.isUnder]⟩
          simp [hosted, Bridge.ask, issued, Switchboard.performAll, Switchboard.perform]
      | false =>
          refine ⟨[.expect scene.session question.kind,
            .callback scene.session (refusalOf question)], ?_, by simp [Operation.isUnder]⟩
          simp [hosted, Bridge.ask, issued, Switchboard.performAll,
            settle_refusal orderly scene.session question, Switchboard.perform]
  | endSession => exact ⟨[.forget scene.session], rfl, by simp [Operation.isUnder]⟩
  | finish purpose ending =>
      refine ⟨[], ?_, by simp⟩
      cases detached <;> cases purpose <;> rfl
  | begin | log | raiseFlag | lowerFlag | openSession | deliver | report =>
      exact ⟨[], rfl, by simp⟩

theorem sound_performAll (sound : board.Sound) {operations : List Operation} {handle : Handle}
    (under : ∀ operation ∈ operations, operation.isUnder handle = true) :
    (board.performAll operations).Sound := by
  induction operations generalizing board with
  | nil => exact sound
  | cons operation rest inductionHypothesis =>
      have own := under operation (List.mem_cons_self ..)
      refine inductionHypothesis (sound.perform fun slot drops => ?_) fun other member =>
        under other (List.mem_cons_of_mem _ member)
      simp [drops, Operation.isUnder] at own

/-- What is done under one handle changes nothing that is held under another. -/
theorem holds_performAll {slot : Nat} {handle other : Handle} {kind : Kind} {mailbox : Mailbox}
    (holds : board.Holds slot handle kind mailbox) (foreign : other ≠ handle)
    {operations : List Operation}
    (under : ∀ operation ∈ operations, operation.isUnder other = true) :
    (board.performAll operations).Holds slot handle kind mailbox := by
  induction operations generalizing board with
  | nil => exact holds
  | cons operation rest inductionHypothesis =>
      have own := under operation (List.mem_cons_self ..)
      refine inductionHypothesis (holds.perform (fun kind asks => ?_) (fun reads => ?_)
        fun slot drops => ?_) fun later member => under later (List.mem_cons_of_mem _ member)
      · simp [asks, Operation.isUnder, Ne.symm foreign] at own
      · simp [reads, Operation.isUnder] at own
      · simp [drops, Operation.isUnder] at own

section Service

variable {service : Service Bridge Event}

theorem sound_actions (sound : service.world.board.Sound) (scene : Scene)
    (actions : List Action) :
    (service.performAll (hosted detached) scene actions).world.board.Sound := by
  induction actions generalizing service with
  | nil => exact sound
  | cons action rest inductionHypothesis =>
      apply inductionHypothesis
      obtain ⟨operations, same, under⟩ := act_board detached sound.orderly scene action
        service.world.machine
      rw [Service.perform_world, same]
      exact sound_performAll sound under

theorem holds_actions {slot session : Nat} {kind : Kind} {mailbox : Mailbox}
    (holds : service.world.board.Holds slot session kind mailbox) {scene : Scene}
    (foreign : scene.session ≠ session) (actions : List Action) :
    (service.performAll (hosted detached) scene actions).world.board.Holds slot session kind
      mailbox := by
  induction actions generalizing service with
  | nil => exact holds
  | cons action rest inductionHypothesis =>
      apply inductionHypothesis
      obtain ⟨operations, same, under⟩ := act_board detached holds.sound.orderly scene action
        service.world.machine
      rw [Service.perform_world, same]
      exact holds_performAll holds (fun equal => foreign (Int.ofNat.inj equal)) under

theorem sound_answer (sound : board.Sound) (session : Nat) (closed : Billing.Response) :
    (board.answer session closed).2.Sound := by
  rcases board.answer_board session closed with same | ⟨slot, request, _, _, polls⟩
  · rwa [same]
  · rw [polls]
    exact sound.perform (by simp)

/-- Looking into one mailbox takes nothing out of another. -/
theorem holds_answer {slot session other : Nat} {kind : Kind} {mailbox : Mailbox}
    (holds : board.Holds slot session kind mailbox) (foreign : other ≠ session)
    (closed : Billing.Response) :
    (board.answer other closed).2.Holds slot session kind mailbox := by
  rcases board.answer_board other closed with same | ⟨place, request, found, own, polls⟩
  · rwa [same]
  · rw [polls]
    refine holds.perform (by simp) (fun same => ?_) (by simp)
    cases same
    have equal := Option.some.inj (found.symm.trans holds.latest.found)
    rw [equal] at own
    exact foreign (Int.ofNat.inj own.symm)

variable (detached) in
/-- A callback changes the switchboard as its answer does. -/
theorem receive_board (now : Nat) (arrival : Arrival) :
    ∃ callback, (service.receive (hosted detached) now arrival).world.board =
      service.world.board.perform (.callback arrival.handle callback) :=
  ⟨_, Progress.route_board ..⟩

theorem enter_board (app : App) (entrance : Entrance) :
    (app.enter entrance).2.service.world.board = app.service.world.board ∨
      ∃ handle callback, (app.enter entrance).2.service.world.board =
        app.service.world.board.perform (.callback handle callback) := by
  obtain ⟨method, pending⟩ := entrance
  cases method with
  | bind | lookUp | purchase => exact .inl (by simp [Entrance.outcome])
  | callback handle sent =>
      exact .inr ⟨handle, _, by simp [Entrance.outcome, Progress.route_board]; rfl⟩

end Service

/-- The switchboard of an app is sound, whatever happens. -/
theorem App.Reaches.sound {origin app : App} (reached : origin.Reaches detached settings app)
    (blank : origin.service.world.board = {}) : app.service.world.board.Sound := by
  refine reached.keeps (·.world.board.Sound) (fun app entrance sound => ?_)
    (fun _ _ sound => sound) (fun service scene action sound => sound_actions sound scene [action])
    (fun service scene stage since sound => sound_answer sound ..)
    (fun service now arrival sound => ?_) (blank ▸ Switchboard.sound_empty)
  · rcases enter_board app entrance with same | ⟨handle, callback, same⟩
    · exact same ▸ sound
    · exact same ▸ sound.perform (by simp)
  · obtain ⟨callback, same⟩ := receive_board detached now arrival
    exact same ▸ sound.perform (by simp)

end Host

end Storefront
