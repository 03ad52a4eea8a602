import Storefront.Service.Timeline

/-!
# What calls did

A journal holds what the calls did and what the world behind them showed. The deeds are
the first half, each with its scene. Who did what, and in which order, is read off them.
-/

namespace Storefront

variable {World Show Signal : Type}

/-- One action of a call, in its scene. -/
structure Deed where
  scene : Scene
  action : Action
deriving DecidableEq, Repr

/-- The deed a line of the journal is about, if it is about one. -/
def Entry.deed? (entry : Entry Show) : Option Deed :=
  match entry.scene, entry.happening with
  | some scene, .did action => some ⟨scene, action⟩
  | _, _ => none

@[simp] theorem Entry.deed?_did (now : Nat) (scene : Scene) (action : Action) :
    (⟨now, some scene, .did action⟩ : Entry Show).deed? = some ⟨scene, action⟩ := rfl

/-- What the world shows is nobody's deed. -/
@[simp] theorem Entry.deed?_showed (now : Nat) (scene : Option Scene) (event : Show) :
    (⟨now, scene, .showed event⟩ : Entry Show).deed? = none := by
  cases scene <;> rfl

/-- All that was done on a service, in order. -/
def Service.deeds (service : Service World Show) : List Deed :=
  service.journal.filterMap Entry.deed?

/-- The deeds a turn consists of when it is taken in a scene. -/
def Turn.deeds (turn : Turn) (scene : Scene) : List Deed :=
  turn.actions.map (Deed.mk scene)

/-- The deeds of one call. -/
def deedsOf (call : Nat) (deeds : List Deed) : List Deed :=
  deeds.filter fun deed => deed.scene.call = call

/-- What one call did, without the scenes. -/
def actionsOf (call : Nat) (deeds : List Deed) : List Action :=
  (deedsOf call deeds).map (·.action)

/-- What a turn does when it is taken at a moment. -/
def Turn.timed (turn : Turn) (now : Nat) : List (Nat × Action) :=
  turn.actions.map (now, ·)

/-- What one call did, with the moments but without the rest of the scenes. -/
def timed (call : Nat) (deeds : List Deed) : List (Nat × Action) :=
  (deedsOf call deeds).map fun deed => (deed.scene.now, deed.action)

/-- The purchase flag after an action. -/
def Action.flag (busy : Bool) : Action → Bool
  | .raiseFlag => true
  | .lowerFlag => false
  | _ => busy

/-- A session is open after some deeds: a call opened it and nothing ended it since. -/
structure IsOpen (past : List Deed) (call session : Nat) : Prop where
  opened : ∃ now, ⟨⟨now, call, session⟩, .openSession⟩ ∈ past
  unended : ∀ deed ∈ past, deed.scene.session = session → deed.action ≠ .endSession

@[simp] theorem deedsOf_nil (call : Nat) : deedsOf call [] = [] := rfl

@[simp] theorem deedsOf_append (call : Nat) (before after : List Deed) :
    deedsOf call (before ++ after) = deedsOf call before ++ deedsOf call after :=
  List.filter_append ..

@[simp] theorem actionsOf_append (call : Nat) (before after : List Deed) :
    actionsOf call (before ++ after) = actionsOf call before ++ actionsOf call after := by
  simp [actionsOf]

theorem mem_deedsOf {call : Nat} {deeds : List Deed} {deed : Deed} :
    deed ∈ deedsOf call deeds ↔ deed ∈ deeds ∧ deed.scene.call = call := by
  simp [deedsOf]

theorem mem_actionsOf {call : Nat} {deeds : List Deed} {action : Action} :
    action ∈ actionsOf call deeds ↔
      ∃ deed ∈ deeds, deed.scene.call = call ∧ deed.action = action := by
  simp only [actionsOf, List.mem_map, mem_deedsOf]
  constructor
  · rintro ⟨deed, ⟨member, owner⟩, same⟩
    exact ⟨deed, member, owner, same⟩
  · rintro ⟨deed, member, owner, same⟩
    exact ⟨deed, ⟨member, owner⟩, same⟩

namespace Turn

variable (turn : Turn) (scene : Scene)

/-- A turn is done by the call of its scene. -/
theorem mem_deeds {deed : Deed} :
    deed ∈ turn.deeds scene ↔ deed.scene = scene ∧ deed.action ∈ turn.actions := by
  cases deed
  simp only [deeds, List.mem_map, Deed.mk.injEq]
  grind

@[simp] theorem deeds_actions : (turn.deeds scene).map (·.action) = turn.actions := by
  simp [deeds, Function.comp_def]

/-- All deeds of a turn are those of the call that takes it. -/
theorem deedsOf_deeds (call : Nat) :
    deedsOf call (turn.deeds scene) = if call = scene.call then turn.deeds scene else [] := by
  split
  · next same =>
    apply List.filter_eq_self.mpr
    intro deed member
    simp [((mem_deeds turn scene).mp member).1, same]
  · next other =>
    apply List.filter_eq_nil_iff.mpr
    intro deed member
    simp [((mem_deeds turn scene).mp member).1, Ne.symm other]

end Turn

@[simp] theorem timed_append (call : Nat) (before after : List Deed) :
    timed call (before ++ after) = timed call before ++ timed call after := by
  simp [timed]

theorem timed_deeds (turn : Turn) (scene : Scene) (call : Nat) :
    timed call (turn.deeds scene) = if call = scene.call then turn.timed scene.now else [] := by
  rw [timed, Turn.deedsOf_deeds]
  split <;> simp [Turn.timed, Turn.deeds, Function.comp_def]

theorem Turn.mem_timed {turn : Turn} {now moment : Nat} {action : Action} :
    (moment, action) ∈ turn.timed now ↔ moment = now ∧ action ∈ turn.actions := by
  simp only [Turn.timed, List.mem_map, Prod.mk.injEq]
  constructor
  · rintro ⟨_, member, rfl, rfl⟩
    exact ⟨rfl, member⟩
  · rintro ⟨rfl, member⟩
    exact ⟨action, member, rfl, rfl⟩

namespace Service

variable (backend : Backend World Show Signal) (scene : Scene)

@[simp] theorem note_deeds (service : Service World Show) (shown : List Show) (world : World) :
    (service.note scene shown world).deeds = service.deeds := by
  simp [deeds, note]

@[simp] theorem perform_deeds (service : Service World Show) (action : Action) :
    (perform backend scene service action).deeds = service.deeds ++ [⟨scene, action⟩] := by
  simp [perform, deeds, note]

@[simp] theorem perform_busy (service : Service World Show) (action : Action) :
    (perform backend scene service action).busy = action.flag service.busy := by
  cases action <;> rfl

@[simp] theorem perform_opened (service : Service World Show) (action : Action) :
    (perform backend scene service action).opened =
      service.opened + if action = .openSession then 1 else 0 := by
  cases action <;> rfl

@[simp] theorem perform_world (service : Service World Show) (action : Action) :
    (perform backend scene service action).world =
      (backend.act scene action service.world).2 := rfl

theorem performAll_cons (service : Service World Show) (action : Action)
    (actions : List Action) :
    service.performAll backend scene (action :: actions) =
      (perform backend scene service action).performAll backend scene actions := rfl

theorem performAll_append (service : Service World Show) (first second : List Action) :
    service.performAll backend scene (first ++ second) =
      (service.performAll backend scene first).performAll backend scene second :=
  List.foldl_append ..

@[simp] theorem performAll_deeds (service : Service World Show) (actions : List Action) :
    (service.performAll backend scene actions).deeds =
      service.deeds ++ actions.map (Deed.mk scene) := by
  induction actions generalizing service with
  | nil => simp [performAll]
  | cons action rest inductionHypothesis =>
      rw [performAll_cons, inductionHypothesis]
      simp

@[simp] theorem performAll_busy (service : Service World Show) (actions : List Action) :
    (service.performAll backend scene actions).busy =
      actions.foldl Action.flag service.busy := by
  induction actions generalizing service with
  | nil => rfl
  | cons action rest inductionHypothesis =>
      rw [performAll_cons, inductionHypothesis]
      simp

@[simp] theorem performAll_opened (service : Service World Show) (actions : List Action) :
    (service.performAll backend scene actions).opened =
      service.opened + actions.count .openSession := by
  induction actions generalizing service with
  | nil => simp [performAll]
  | cons action rest inductionHypothesis =>
      rw [performAll_cons, inductionHypothesis]
      simp only [perform_opened, List.count_cons, beq_iff_eq]
      omega

/-- Looking for an answer does nothing. -/
@[simp] theorem poll_deeds (stage : Stage) (since : Nat) (service : Service World Show) :
    (service.poll backend scene stage since).2.deeds = service.deeds :=
  note_deeds ..

@[simp] theorem poll_busy (stage : Stage) (since : Nat) (service : Service World Show) :
    (service.poll backend scene stage since).2.busy = service.busy := rfl

@[simp] theorem poll_opened (stage : Stage) (since : Nat) (service : Service World Show) :
    (service.poll backend scene stage since).2.opened = service.opened := rfl

/-- A signal from outside is no deed of any call. -/
@[simp] theorem receive_deeds (now : Nat) (service : Service World Show) (signal : Signal) :
    (service.receive backend now signal).deeds = service.deeds := by
  simp [receive, deeds]

@[simp] theorem receive_busy (now : Nat) (service : Service World Show) (signal : Signal) :
    (service.receive backend now signal).busy = service.busy := rfl

@[simp] theorem receive_opened (now : Nat) (service : Service World Show) (signal : Signal) :
    (service.receive backend now signal).opened = service.opened := rfl

/-! The journal only grows. -/

theorem note_journal (service : Service World Show) (shown : List Show) (world : World) :
    service.journal <+: (service.note scene shown world).journal :=
  List.prefix_append ..

/-- An action is journaled with what the world behind the calls shows of it. -/
theorem perform_journal (service : Service World Show) (action : Action) :
    (perform backend scene service action).journal =
      service.journal ++ ⟨scene.now, some scene, .did action⟩ ::
        (backend.act scene action service.world).1.map fun event =>
          ⟨scene.now, some scene, .showed event⟩ := by
  simp [perform, note]

theorem performAll_journal (service : Service World Show) (actions : List Action) :
    service.journal <+: (service.performAll backend scene actions).journal := by
  induction actions generalizing service with
  | nil => exact List.prefix_rfl
  | cons action rest inductionHypothesis =>
      have performed : service.journal <+: (perform backend scene service action).journal :=
        perform_journal backend scene service action ▸ List.prefix_append ..
      exact performed.trans (inductionHypothesis _)

theorem poll_journal (stage : Stage) (since : Nat) (service : Service World Show) :
    service.journal <+: (service.poll backend scene stage since).2.journal :=
  note_journal ..

theorem receive_journal (now : Nat) (service : Service World Show) (signal : Signal) :
    service.journal <+: (service.receive backend now signal).journal :=
  List.prefix_append ..

end Service

end Storefront
