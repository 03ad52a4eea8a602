import Storefront.Proofs.Life
import Storefront.Proofs.Unfolding

/-!
# One purchase at a time

The purchase flag belongs to the one purchase that is under way. `Timeline.Claimed` couples
the flag with the statuses of the calls and is kept by every turn; the life of a call then
carries it over to what the calls did. `Timeline.purchases_exclusive` is the result for every order.
-/

namespace Storefront

variable {World Show Signal : Type}

/-- A call holds the purchase flag after some deeds: it raised the flag and did not return
since. -/
def Holds (past : List Deed) (call : Nat) : Prop :=
  .raiseFlag ∈ actionsOf call past ∧
    ∀ purpose ending, .finish purpose ending ∉ actionsOf call past

/-- A purchase that is under way. -/
def Call.IsBuying (call : Call) : Prop :=
  call.order.purpose = .purchase ∧
    ∃ attempt awaited session since began,
      call.status = .waiting attempt awaited session since began

/-- Actions that leave the flag alone. -/
theorem flag_unmoved {actions : List Action} (raised : .raiseFlag ∉ actions)
    (lowered : .lowerFlag ∉ actions) (busy : Bool) :
    actions.foldl Action.flag busy = busy := by
  induction actions generalizing busy with
  | nil => rfl
  | cons action rest inductionHypothesis =>
      simp only [List.mem_cons, not_or] at raised lowered
      rw [List.foldl_cons, inductionHypothesis raised.2 lowered.2]
      cases action <;> simp_all [Action.flag]

/-- A first turn raises the flag exactly when it starts a purchase, and then it was free. -/
theorem Order.FirstTurn.flag {order : Order} {busy : Bool} {turn : Turn}
    (form : order.FirstTurn busy turn) :
    turn.actions.foldl Action.flag busy = busy ∧
        ¬ (order.purpose = .purchase ∧ ∃ attempt awaited, turn.rest = .waiting attempt awaited) ∨
      turn.actions.foldl Action.flag busy = true ∧ busy = false ∧
        order.purpose = .purchase ∧ ∃ attempt awaited, turn.rest = .waiting attempt awaited := by
  cases form with
  | opened accepted free quiet =>
      cases purpose : order.purpose with
      | lookup =>
          refine .inl ⟨flag_unmoved ?_ ?_ busy, by simp⟩ <;>
            simp [not_mem_of_all quiet]
      | purchase =>
          refine .inr ⟨?_, free purpose, rfl, _, _, rfl⟩
          simp only [Purpose.claim, List.foldl_cons, List.foldl_append, List.foldl_nil,
            Action.flag]
          exact flag_unmoved (not_mem_of_all quiet _ (by simp))
            (not_mem_of_all quiet _ (by simp)) true
  | unread | empty | notSingle | refused =>
      exact .inl ⟨flag_unmoved (by simp) (by simp) busy, by simp⟩

/-- A turn that ends with giving the flag back leaves it free if the turn is a purchase's. -/
theorem yield_flag (purpose : Purpose) (ending : Ending) (busy : Bool) (first : List Action)
    (raised : .raiseFlag ∉ first) (lowered : .lowerFlag ∉ first) :
    (first ++ (purpose.yield ++ [Action.finish purpose ending])).foldl Action.flag busy =
      (busy && purpose == .lookup) := by
  rw [List.foldl_append, flag_unmoved raised lowered]
  cases purpose <;> cases busy <;> rfl

/-- A later turn that leaves its call waiting keeps the flag, one that ends a purchase frees
it. -/
theorem Attempt.NextTurn.flag {attempt : Attempt} {awaited : Awaited} {turn : Turn}
    (form : attempt.NextTurn awaited turn) (busy : Bool) :
    (∃ later ahead, turn.rest = .waiting later ahead) ∧
        turn.actions.foldl Action.flag busy = busy ∨
      (∃ ending, turn.rest = .finished ending) ∧
        turn.actions.foldl Action.flag busy = (busy && attempt.purpose == .lookup) := by
  have spoken {first : List Action}
      (speech : ∀ action ∈ first, action.isRemark = true ∨ ∃ text, action = .deliver text) :
      .raiseFlag ∉ first ∧ .lowerFlag ∉ first :=
    ⟨fun member => by simpa using speech _ member, fun member => by simpa using speech _ member⟩
  cases form with
  | asks quiet same stage progress =>
      refine .inl ⟨⟨_, _, rfl⟩, flag_unmoved ?_ ?_ busy⟩ <;> simp [not_mem_of_all quiet]
  | @succeeds first outcome line speech =>
      have ends := yield_flag attempt.purpose (.succeeded outcome) busy
        (first ++ (Attempt.hangUp ++ [.log line]))
        (by simp [hangUp, Action.say, (spoken speech).1])
        (by simp [hangUp, Action.say, (spoken speech).2])
      exact .inr ⟨⟨_, rfl⟩, by simpa using ends⟩
  | @fails first moved failure line quiet still tried =>
      have ends := yield_flag attempt.purpose (.failed failure) busy
        (first ++ (Attempt.hangUp ++ (moved ++ [.report failure, .log line])))
        (by simp [hangUp, Action.say, not_mem_of_all quiet, not_mem_of_all still])
        (by simp [hangUp, Action.say, not_mem_of_all quiet, not_mem_of_all still])
      exact .inr ⟨⟨_, rfl⟩, by simpa using ends⟩
  | cancelled =>
      exact .inr ⟨⟨_, rfl⟩, yield_flag attempt.purpose .cancelled busy hangUp
        (by simp [hangUp, Action.say]) (by simp [hangUp, Action.say])⟩

/-- The flag is raised only when it is free. -/
theorem Order.FirstTurn.free_of_raised {order : Order} {busy : Bool} {turn : Turn}
    (form : order.FirstTurn busy turn) (raised : .raiseFlag ∈ turn.actions) : busy = false := by
  cases form with
  | opened accepted free quiet =>
      simp [not_mem_of_all quiet] at raised
      exact free raised
  | unread | empty | notSingle | refused => simp at raised

/-- A first turn begins once, at its start. -/
theorem Order.start_begins (order : Order) (busy : Bool) :
    ∃ tail, (order.start busy).actions = .begin :: tail ∧ .begin ∉ tail := by
  have form := order.start_firstTurn busy
  generalize order.start busy = turn at form
  cases form with
  | opened accepted free quiet => exact ⟨_, rfl, by simp [not_mem_of_all quiet]⟩
  | unread | empty | notSingle | refused => exact ⟨_, rfl, by simp⟩

/-- No later turn begins a call or raises the flag. -/
theorem Attempt.NextTurn.starts_nothing {attempt : Attempt} {awaited : Awaited} {turn : Turn}
    (form : attempt.NextTurn awaited turn) :
    .begin ∉ turn.actions ∧ .raiseFlag ∉ turn.actions := by
  cases form with
  | asks quiet same stage progress => simp [not_mem_of_all quiet]
  | @succeeds first outcome line speech =>
      have unsaid : .begin ∉ first := fun member => by simpa using speech _ member
      have unclaimed : .raiseFlag ∉ first := fun member => by simpa using speech _ member
      simp [unsaid, unclaimed, hangUp, Action.say]
  | fails quiet still tried =>
      simp [not_mem_of_all quiet, not_mem_of_all still, hangUp, Action.say]
  | cancelled => simp [hangUp, Action.say]

namespace Timeline

variable {backend : Backend World Show Signal} {settings : Settings}
  {origin timeline : Timeline World Show Signal}

/-- A call of a timeline that is a purchase under way. -/
def Buys (timeline : Timeline World Show Signal) (index : Nat) : Prop :=
  ∃ call, timeline.calls[index]? = some call ∧ call.IsBuying

/-- The flag is raised exactly while a purchase is under way, and only one is. -/
structure Claimed (timeline : Timeline World Show Signal) : Prop where
  busy_iff : timeline.service.busy = true ↔ ∃ index, timeline.Buys index
  alone : ∀ {first second}, timeline.Buys first → timeline.Buys second → first = second

theorem Fresh.claimed (fresh : origin.Fresh) : origin.Claimed := by
  have nobody : ∀ index, ¬ origin.Buys index := by
    rintro index ⟨call, found, _, attempt, awaited, session, since, began, waits⟩
    rw [fresh.idle call (List.mem_of_getElem? found)] at waits
    exact absurd waits (by simp)
  exact ⟨by simp [fresh.free, nobody], fun first => absurd first (nobody _)⟩

/-- Whether the call that took a turn is a purchase under way. -/
theorem takeTurn_buys_self {scene : Scene} {began : Nat} {turn : Turn} {call : Call}
    (found : timeline.calls[scene.call]? = some call) :
    (timeline.takeTurn backend scene began turn call).Buys scene.call ↔
      call.order.purpose = .purchase ∧ ∃ attempt awaited, turn.rest = .waiting attempt awaited := by
  have inside := (List.getElem?_eq_some_iff.mp found).1
  cases rest : turn.rest <;> simp [Buys, Call.IsBuying, inside, Rest.status, rest]

/-- The other purchases stay under way. -/
theorem takeTurn_buys_other {scene : Scene} {began : Nat} {turn : Turn} {call : Call}
    {index : Nat} (other : index ≠ scene.call) :
    (timeline.takeTurn backend scene began turn call).Buys index ↔ timeline.Buys index := by
  simp [Buys, List.getElem?_set_ne (Ne.symm other)]

section Turns

variable {next : Timeline World Show Signal} {taker : Nat} (claimed : timeline.Claimed)
  (others : ∀ index ≠ taker, next.Buys index ↔ timeline.Buys index)
include claimed others

/-- The flag stays as it is if the call that takes a turn stays a purchase, or none. -/
theorem Claimed.kept (busy : next.service.busy = timeline.service.busy)
    (same : next.Buys taker ↔ timeline.Buys taker) : next.Claimed := by
  have unchanged : ∀ index, next.Buys index ↔ timeline.Buys index := fun index => by
    by_cases taken : index = taker
    · rw [taken, same]
    · exact others index taken
  exact ⟨by simp [busy, claimed.busy_iff, unchanged],
    fun first second => claimed.alone ((unchanged _).mp first) ((unchanged _).mp second)⟩

/-- The flag was free and a purchase took it. -/
theorem Claimed.raised (free : timeline.service.busy = false) (busy : next.service.busy = true)
    (buys : next.Buys taker) : next.Claimed := by
  have nobody : ∀ index, ¬ timeline.Buys index := fun index buying => by
    simpa [free] using claimed.busy_iff.mpr ⟨index, buying⟩
  have only : ∀ {index}, next.Buys index → index = taker := fun {index} buying =>
    Classical.byContradiction fun other => nobody index ((others index other).mp buying)
  exact ⟨by simpa [busy] using ⟨taker, buys⟩,
    fun first second => (only first).trans (only second).symm⟩

/-- The purchase that was under way ended and freed the flag. -/
theorem Claimed.lowered (buying : timeline.Buys taker) (free : next.service.busy = false)
    (ended : ¬ next.Buys taker) : next.Claimed := by
  have nobody : ∀ index, ¬ next.Buys index := fun index still => by
    by_cases taken : index = taker
    · exact ended (taken ▸ still)
    · exact taken (claimed.alone ((others index taken).mp still) buying)
  exact ⟨by simp [free, nobody], fun first => absurd first (nobody _)⟩

end Turns

theorem buys_found {index : Nat} {call : Call} (found : timeline.calls[index]? = some call) :
    timeline.Buys index ↔ call.IsBuying := by
  simp [Buys, found]

/-- A call that starts keeps the flag with the purchase under way. -/
theorem Claimed.start (claimed : timeline.Claimed) {index : Nat} {call : Call} (now : Nat)
    (found : timeline.calls[index]? = some call) (idle : call.status = .notStarted) :
    (timeline.takeTurn backend ⟨now, index, timeline.service.opened + 1⟩ now
      (call.order.start timeline.service.busy) call).Claimed := by
  rcases (call.order.start_firstTurn timeline.service.busy).flag with
    ⟨same, quiet⟩ | ⟨raised, free, buying⟩
  · refine claimed.kept (fun other distinct => takeTurn_buys_other distinct)
      (by simpa using same) ?_
    rw [takeTurn_buys_self found, buys_found found]
    simp [quiet, Call.IsBuying, idle]
  · exact claimed.raised (fun other distinct => takeTurn_buys_other distinct) free
      (by simpa using raised) ((takeTurn_buys_self found).mpr buying)

/-- A call that goes on keeps the flag while it waits, and gives it back when it ends. -/
theorem Claimed.react (claimed : timeline.Claimed) {index session since began : Nat} {call : Call}
    {attempt : Attempt} {awaited : Awaited} {turn : Turn} (now : Nat)
    (found : timeline.calls[index]? = some call)
    (waits : call.status = .waiting attempt awaited session since began)
    (purpose : attempt.purpose = call.order.purpose)
    (form : attempt.NextTurn awaited turn) :
    (timeline.takeTurn backend ⟨now, index, session⟩ began turn call).Claimed := by
  have others : ∀ other ≠ index, (timeline.takeTurn backend ⟨now, index, session⟩ began turn
      call).Buys other ↔ timeline.Buys other :=
    fun other distinct => takeTurn_buys_other distinct
  rcases form.flag timeline.service.busy with ⟨still, same⟩ | ⟨⟨ending, ends⟩, freed⟩
  · apply claimed.kept others (by simpa using same)
    rw [takeTurn_buys_self found, buys_found found]
    simp [still, Call.IsBuying, waits]
  · cases bought : call.order.purpose with
    | lookup =>
        apply claimed.kept others (by simp [freed, purpose, bought])
        rw [takeTurn_buys_self found, buys_found found]
        simp [Call.IsBuying, bought]
    | purchase =>
        refine claimed.lowered others ?_ (by simp [freed, purpose, bought]) ?_
        · rw [buys_found found]
          exact ⟨bought, _, _, _, _, _, waits⟩
        · rw [takeTurn_buys_self found]
          simp [ends]

/-- The flag belongs to the purchase under way, in whatever order the calls go on. -/
theorem Fresh.claimed_reached (fresh : origin.Fresh)
    (reached : origin.Interleaves backend settings timeline) : timeline.Claimed := by
  induction reached with
  | refl => exact fresh.claimed
  | step prior transition claimed =>
      cases transition with
      | start now found idle => exact claimed.start now found idle
      | react now found waits reaction =>
          have life := fresh.life prior found
          rw [waits] at life
          exact claimed.react now found waits life.of_waiting.1 reaction.nextTurn
      | poll scene stage since => exact ⟨claimed.busy_iff, claimed.alone⟩
      | receive now signal => exact ⟨claimed.busy_iff, claimed.alone⟩
      | queue signals => exact ⟨claimed.busy_iff, claimed.alone⟩

/-- Who holds the flag by what was done is a purchase under way. -/
theorem Fresh.holds_iff (fresh : origin.Fresh)
    (reached : origin.Interleaves backend settings timeline) (index : Nat) :
    Holds timeline.service.deeds index ↔ timeline.Buys index := by
  cases found : timeline.calls[index]? with
  | none => simp [Holds, Buys, found, actionsOf, fresh.strangers reached found]
  | some call =>
      have life := fresh.life reached found
      have finished := life.finish_iff
      rw [buys_found found, Holds, life.raiseFlag_iff]
      cases status : call.status with
      | notStarted =>
          rw [status] at life
          simp [life.of_notStarted, Call.IsBuying, status]
      | waiting attempt awaited session since began =>
          rw [status] at life
          simp only [status, reduceCtorEq, exists_false, iff_false] at finished
          simp only [Call.IsBuying, status, life.of_waiting.2.1]
          grind
      | finished ending moment =>
          obtain ⟨purpose, ending, finish⟩ := finished.mpr ⟨_, _, status⟩
          have returned : ¬ ∀ purpose ending,
              .finish purpose ending ∉ actionsOf index timeline.service.deeds :=
            fun none => none purpose ending finish
          simp [returned, Call.IsBuying, status]

/-- After any turn at most one call holds the flag, and the flag tells whether one does. -/
theorem Fresh.held (fresh : origin.Fresh)
    (reached : origin.Interleaves backend settings timeline) :
    (timeline.service.busy = true ↔ ∃ holder, Holds timeline.service.deeds holder) ∧
      ∀ {first second}, Holds timeline.service.deeds first →
        Holds timeline.service.deeds second → first = second := by
  have claimed := fresh.claimed_reached reached
  constructor
  · simp [claimed.busy_iff, fresh.holds_iff reached]
  · intro first second holds also
    exact claimed.alone ((fresh.holds_iff reached _).mp holds)
        ((fresh.holds_iff reached _).mp also)

/-- The turn of another call does not make anybody a holder. -/
theorem holds_part {past : List Deed} {turn : Turn} {scene : Scene} {part rest : List Deed}
    {index : Nat} (block : turn.deeds scene = part ++ rest) (other : index ≠ scene.call) :
    Holds (past ++ part) index ↔ Holds past index := by
  have nothing : deedsOf index part = [] := by
    have all := Turn.deedsOf_deeds turn scene index
    rw [if_neg other, block, deedsOf_append] at all
    exact (List.append_eq_nil_iff.mp all).1
  simp [Holds, actionsOf, nothing]

/-- While somebody else holds the flag, no turn of a call makes it a holder. -/
theorem Takes.holds_alone (fresh : origin.Fresh)
    (reached : origin.Interleaves backend settings timeline) {call : Call} {scene : Scene}
    {turn : Turn} (takes : timeline.Takes settings call scene turn) {part rest : List Deed}
    (block : turn.deeds scene = part ++ rest)
    (holds : Holds (timeline.service.deeds ++ part) scene.call) {holder : Nat}
    (held : Holds timeline.service.deeds holder) : holder = scene.call := by
  have inTurn : ∀ action ∈ actionsOf scene.call part, action ∈ turn.actions := by
    intro action member
    obtain ⟨deed, inPart, _, rfl⟩ := mem_actionsOf.mp member
    exact ((Turn.mem_deeds turn scene).mp (block ▸ List.mem_append_left rest inPart)).2
  have raised := holds.1
  rw [actionsOf_append, List.mem_append] at raised
  cases takes with
  | start now found idle =>
      have busy := (fresh.held reached).1.mpr ⟨holder, held⟩
      have nothing := (fresh.story reached found).unstarted_deeds idle
      rw [actionsOf, nothing] at raised
      have raising := raised.resolve_left (by simp)
      have free := (call.order.start_firstTurn _).free_of_raised (inTurn _ raising)
      simp [free] at busy
  | react now found waits reaction =>
      have already := raised.resolve_right fun member =>
        reaction.nextTurn.starts_nothing.2 (inTurn _ member)
      refine (fresh.held reached).2 held ⟨already, fun purpose ending finish => ?_⟩
      exact holds.2 purpose ending (by simp [finish])

/-- At no point do two calls hold the flag. -/
theorem Fresh.held_alone (fresh : origin.Fresh)
    (reached : origin.Interleaves backend settings timeline) {past future : List Deed}
    (journal : timeline.service.deeds = past ++ future) {first second : Nat}
    (holds : Holds past first) (also : Holds past second) : first = second := by
  cases future with
  | nil =>
      rw [List.append_nil] at journal
      exact (fresh.held reached).2 (journal ▸ holds) (journal ▸ also)
  | cons deed future =>
      obtain ⟨before, call, scene, turn, part, rest, later, priorReached, takes, block, rfl, rfl⟩ :=
        reached.taken fresh.deeds journal
      by_cases firstTakes : first = scene.call
      · by_cases secondTakes : second = scene.call
        · rw [firstTakes, secondTakes]
        · exact firstTakes.trans (takes.holds_alone fresh priorReached block (firstTakes ▸ holds)
            ((holds_part block secondTakes).mp also)).symm
      · have held := (holds_part block firstTakes).mp holds
        by_cases secondTakes : second = scene.call
        · exact (takes.holds_alone fresh priorReached block (secondTakes ▸ also) held).trans
            secondTakes.symm
        · exact (fresh.held priorReached).2 held ((holds_part block secondTakes).mp also)

/-- A purchase whose session is open holds the flag, and it is its only session. -/
theorem Fresh.holds_of_open (fresh : origin.Fresh)
    (reached : origin.Interleaves backend settings timeline) {past future : List Deed}
    (journal : timeline.service.deeds = past ++ future) {index session : Nat} {call : Call}
    (found : timeline.calls[index]? = some call) (purchase : call.order.purpose = .purchase)
    (isOpen : IsOpen past index session) :
    Holds past index ∧ ∀ deed ∈ deedsOf index timeline.service.deeds,
      deed.scene.session = session := by
  obtain ⟨own, same, _⟩ := (fresh.story reached found).session
  obtain ⟨now, opened⟩ := isOpen.opened
  have inJournal : ∀ deed ∈ past, deed.scene.call = index → deed.scene.session = own :=
    fun deed member owner => same deed (mem_deedsOf.mpr ⟨by simp [journal, member], owner⟩)
  have here : session = own := inJournal _ opened rfl
  have life := fresh.life reached found
  rw [journal, actionsOf_append] at life
  refine ⟨life.holds_of_open purchase (mem_actionsOf.mpr ⟨_, opened, rfl, rfl⟩) ?_,
    fun deed member => (same deed member).trans here.symm⟩
  intro ended
  obtain ⟨deed, member, owner, ends⟩ := mem_actionsOf.mp ended
  exact isOpen.unended deed member ((inJournal deed member owner).trans here.symm) ends

/-- A call begins with a first turn, taken when nothing but the past had been done. -/
theorem Fresh.begun (fresh : origin.Fresh)
    (reached : origin.Interleaves backend settings timeline) {past future : List Deed}
    {scene : Scene} (journal : timeline.service.deeds = past ++ ⟨scene, .begin⟩ :: future)
    {call : Call} (found : timeline.calls[scene.call]? = some call) :
    ∃ before, origin.Interleaves backend settings before ∧ before.service.deeds = past ∧
      ∀ action ∈ (call.order.start before.service.busy).actions, action = .begin ∨
        action ∈ actionsOf scene.call future := by
  obtain ⟨before, taker, present, turn, part, rest, later, prior, takes, block, rfl, rfl⟩ :=
    reached.taken fresh.deeds journal
  have inTurn : ⟨scene, .begin⟩ ∈ turn.deeds present := by simp [block]
  obtain ⟨rfl, begins⟩ := (Turn.mem_deeds _ _).mp inTurn
  cases takes with
  | @start index now isThere idle =>
      have order : taker.order = call.order := by
        have orders := prior.orders.trans reached.orders.symm
        have same := congrArg (·[index]?) orders
        simpa [isThere, found] using same
      obtain ⟨tail, whole, once⟩ := taker.order.start_begins before.service.busy
      rw [Turn.deeds, whole, List.map_cons] at block
      cases part with
      | nil =>
          refine ⟨before, prior, by simp, fun action member => ?_⟩
          rw [List.nil_append, List.cons.injEq] at block
          rw [← order, whole, List.mem_cons] at member
          refine member.imp_right fun inTail => mem_actionsOf.mpr ⟨⟨_, action⟩, ?_, rfl, rfl⟩
          exact List.mem_append_left later (block.2 ▸ List.mem_map_of_mem inTail)
      | cons deed part =>
          rw [List.cons_append, List.cons.injEq] at block
          have again : ⟨_, .begin⟩ ∈ tail.map (Deed.mk _) := block.2 ▸ List.mem_append_right _
            (List.mem_cons_self ..)
          obtain ⟨action, inTail, same⟩ := List.mem_map.mp again
          cases same
          exact absurd inTail once
  | react now isThere waits reaction => exact absurd begins reaction.nextTurn.starts_nothing.1

/-- A purchase of an accepted catalog is refused, or opens a session, by whether the flag is
held when it begins. -/
theorem Fresh.decided (fresh : origin.Fresh)
    (reached : origin.Interleaves backend settings timeline) {past future : List Deed}
    {scene : Scene} (journal : timeline.service.deeds = past ++ ⟨scene, .begin⟩ :: future)
    {call : Call} (found : timeline.calls[scene.call]? = some call)
    (purchase : call.order.purpose = .purchase) {catalog : Catalog.Canonical}
    (accepted : call.order.Accepts catalog) :
    ((∃ holder, Holds past holder) →
        .finish .purchase (.failed .purchaseInProgress) ∈ actionsOf scene.call future) ∧
      ((¬ ∃ holder, Holds past holder) → .openSession ∈ actionsOf scene.call future) := by
  obtain ⟨before, prior, rfl, does⟩ := fresh.begun reached journal found
  have busy := (fresh.held prior).1
  have form := call.order.start_firstTurn before.service.busy
  rw [← busy]
  generalize call.order.start before.service.busy = turn at form does
  cases form with
  | unread read => simp [accepted.1] at read
  | empty lookup => simp [purchase] at lookup
  | notSingle _ read single =>
      obtain ⟨readable, filled⟩ := accepted
      rw [readable] at read
      cases read
      simp [purchase, single] at filled
  | refused _ _ taken =>
      constructor
      · intro _
        simpa [purchase] using does (.finish call.order.purpose (.failed .purchaseInProgress))
      · intro free
        exact absurd taken free
  | opened _ free _ =>
      constructor
      · intro taken
        simp [free purchase] at taken
      · intro _
        simpa using does .openSession

/-- What holds of the purchases on a timeline, at every point of all that was done. -/
structure Exclusive (timeline : Timeline World Show Signal) : Prop where
  /-- Two purchases never have a session open at one point. -/
  alone : ∀ {past future first second firstCall secondCall session other},
    timeline.service.deeds = past ++ future →
    timeline.calls[first]? = some firstCall → firstCall.order.purpose = .purchase →
    timeline.calls[second]? = some secondCall → secondCall.order.purpose = .purchase →
    IsOpen past first session → IsOpen past second other → first = second ∧ session = other
  /-- A purchase of an accepted catalog is refused exactly if somebody holds the flag when it
  begins, and opens a session exactly if nobody does. -/
  refused_iff : ∀ {past future scene call catalog},
    timeline.service.deeds = past ++ ⟨scene, .begin⟩ :: future →
    timeline.calls[scene.call]? = some call → call.order.purpose = .purchase →
    call.order.Accepts catalog →
    (.finish .purchase (.failed .purchaseInProgress) ∈
        actionsOf scene.call timeline.service.deeds ↔ ∃ holder, Holds past holder) ∧
      (.openSession ∈ actionsOf scene.call timeline.service.deeds ↔
        ¬ ∃ holder, Holds past holder)
  /-- Lookups, purchases of other catalogs and refused purchases leave the flag alone. -/
  untouched : ∀ {index call}, timeline.calls[index]? = some call →
    call.order.purpose = .lookup ∨ (∀ catalog, ¬ call.order.Accepts catalog) ∨
      .finish .purchase (.failed .purchaseInProgress) ∈
        actionsOf index timeline.service.deeds →
    .raiseFlag ∉ actionsOf index timeline.service.deeds ∧
      .lowerFlag ∉ actionsOf index timeline.service.deeds
  /-- A call that raised the flag and returned, in whatever way, ended its session and lowered
  the flag after that. -/
  returned : ∀ {index call purpose ending}, timeline.calls[index]? = some call →
    .raiseFlag ∈ actionsOf index timeline.service.deeds →
    .finish purpose ending ∈ actionsOf index timeline.service.deeds →
    ∃ before after, actionsOf index timeline.service.deeds = before ++ .endSession :: after ∧
      .lowerFlag ∈ after
  /-- The flag is where the last call that touched it left it. -/
  busy_eq : timeline.service.busy =
    (timeline.service.deeds.map (·.action)).foldl Action.flag false
  /-- The flag is raised exactly while somebody holds it. -/
  busy_iff : timeline.service.busy = true ↔ ∃ holder, Holds timeline.service.deeds holder

theorem Fresh.busy_eq (fresh : origin.Fresh)
    (reached : origin.Interleaves backend settings timeline) :
    timeline.service.busy = (timeline.service.deeds.map (·.action)).foldl Action.flag false := by
  induction reached with
  | refl => simp [fresh.free, fresh.deeds]
  | step prior transition inductionHypothesis =>
      cases transition with
      | start now found idle =>
          rw [takeTurn_deeds, List.map_append, List.foldl_append, ← inductionHypothesis]
          simp
      | react now found waits reaction =>
          rw [takeTurn_deeds, List.map_append, List.foldl_append, ← inductionHypothesis]
          simp
      | poll scene stage since => simpa using inductionHypothesis
      | receive now signal => simpa using inductionHypothesis
      | queue signals => exact inductionHypothesis

/-- One purchase at a time, in whatever order the calls on a service go on and whatever
becomes of their stages. -/
theorem purchases_exclusive (fresh : origin.Fresh)
    (reached : origin.Interleaves backend settings timeline) : timeline.Exclusive where
  alone journal found bought also boughtToo isOpen isOpenToo := by
    obtain ⟨holds, sessions⟩ := fresh.holds_of_open reached journal found bought isOpen
    obtain ⟨holdsToo, _⟩ := fresh.holds_of_open reached journal also boughtToo isOpenToo
    have same := fresh.held_alone reached journal holds holdsToo
    subst same
    obtain ⟨now, opened⟩ := isOpenToo.opened
    have own := sessions _ (mem_deedsOf.mpr ⟨journal ▸ List.mem_append_left _ opened, rfl⟩)
    exact ⟨rfl, own.symm⟩
  refused_iff {past future scene call catalog} journal found purchase accepted := by
    have life := fresh.life reached found
    obtain ⟨refuses, opens⟩ := fresh.decided reached journal found purchase accepted
    have inJournal : ∀ action ∈ actionsOf scene.call future,
        action ∈ actionsOf scene.call timeline.service.deeds := by
      intro action member
      have split : past ++ ⟨scene, .begin⟩ :: future = (past ++ [⟨scene, .begin⟩]) ++ future := by
        simp
      rw [journal, split, actionsOf_append]
      exact List.mem_append_right _ member
    constructor
    · constructor
      · intro refused
        apply Classical.byContradiction
        intro free
        exact life.refused_unopened refused (inJournal _ (opens free))
      · intro held
        exact inJournal _ (refuses held)
    · constructor
      · intro opened held
        exact life.refused_unopened (inJournal _ (refuses held)) opened
      · intro free
        exact inJournal _ (opens free)
  untouched {index call} found reason := by
    have life := fresh.life reached found
    have unraised : .raiseFlag ∉ actionsOf index timeline.service.deeds := by
      intro raised
      obtain ⟨purchase, opened⟩ := life.raiseFlag_iff.mp raised
      rcases reason with lookup | unaccepted | refused
      · simp [purchase] at lookup
      · obtain ⟨catalog, accepted⟩ := life.accepted opened
        exact unaccepted catalog accepted
      · exact life.refused_unopened refused opened
    exact ⟨unraised, fun lowered => unraised (life.raised_of_lowered lowered)⟩
  returned found raised finished := (fresh.life reached found).returned raised finished
  busy_eq := fresh.busy_eq reached
  busy_iff := (fresh.held reached).1

/-- Two purchases and a lookup at once, and a purchase after they are over. -/
def rush : Timeline Unit Recorded Empty where
  calls :=
    let premium : Catalog.Canonical := ⟨[⟨false, "subs", "premium"⟩]⟩
    let purchase : Call := { order := ⟨.purchase, .catalog premium, "activity"⟩ }
    [purchase, purchase, { order := ⟨.lookup, .catalog premium, "activity"⟩ },
      { purchase with delay := 9 }]
  service := { world := () }

/-- The second purchase of the rush is refused while the first runs; the last is not. -/
theorem rush_exclusive :
    (rush.run (scripted [{ setup := { wait := .after 3 } }] true) {}).Exclusive ∧
      .finish .purchase (.failed .purchaseInProgress) ∈ actionsOf 1
        (rush.run (scripted [{ setup := { wait := .after 3 } }] true) {}).service.deeds ∧
      .openSession ∈ actionsOf 3
        (rush.run (scripted [{ setup := { wait := .after 3 } }] true) {}).service.deeds := by
  have fresh : rush.Fresh := ⟨by decide, rfl, rfl, rfl⟩
  exact ⟨purchases_exclusive fresh (run_interleaves _ _ _), by decide +kernel, by decide +kernel⟩

end Timeline

end Storefront
