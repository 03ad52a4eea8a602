import Mathlib.Data.List.TakeWhile
import Storefront.Switchboard

/-!
# The fate of a request

A request is decided by the first later operation under its handle that answers it, forgets
it or replaces it. `Request.follow` is what an operation does to one request, whatever else
is on the switchboard; the fate of the request is read off a run of it.
-/

namespace Storefront

/-- What can be done with a switchboard. -/
inductive Operation where
  | expect (handle : Handle) (kind : Kind)
  | forget (handle : Handle)
  | callback (handle : Handle) (callback : Callback)
  | poll (slot : Nat)
  | drop (slot : Nat)
deriving DecidableEq, Repr

namespace Operation

/-- Whether an operation decides a request of a kind that waits under a handle. -/
def decides (handle : Handle) (kind : Kind) : Operation → Bool
  | expect other _ => other = handle
  | forget other => other = handle
  | callback other arrived => other = handle && arrived.answers kind
  | poll _ => false
  | drop _ => false

/-- The answer an operation gives to the request it decides. -/
def answer? : Operation → Option Billing.Response
  | callback _ (.setupFinished result) => some ⟨result, none⟩
  | callback _ (.skuDetails reply) => some reply.read.1
  | callback _ (.launched result) => some ⟨result, none⟩
  | callback _ .disconnected =>
      some ⟨⟨.serviceDisconnected, "billing service disconnected"⟩, none⟩
  | expect .. | forget _ | poll _ | drop _ => none

end Operation

namespace Switchboard

/-- Does one operation. -/
def perform (board : Switchboard) : Operation → Switchboard
  | .expect handle kind => board.expect handle kind
  | .forget handle => board.forget handle
  | .callback handle callback => (board.route handle callback).2.2
  | .poll slot => (board.collect slot).2
  | .drop slot => board.drop slot

/-- Does operations one after the other. -/
def performAll (board : Switchboard) (operations : List Operation) : Switchboard :=
  operations.foldl perform board

/-- The switchboard after some operations. -/
def after (operations : List Operation) : Switchboard :=
  performAll {} operations

/-- What is found in the mailbox of a request that was made after `past`, once the operations
`since` were done. -/
def finds (past : List Operation) (handle : Handle) (kind : Kind) (since : List Operation) :
    Collected :=
  ((after (past ++ .expect handle kind :: since)).collect (after past).requests.length).1

/-- At most one request waits under a handle, and it is the last that was made under it. -/
def Orderly (board : Switchboard) : Prop :=
  board.requests.Pairwise fun earlier later =>
    earlier.handle = later.handle → earlier.isOpen = false

end Switchboard

/-- What a look into the mailbox of a request gives, by what was done since it was made. -/
def fateOf (handle : Handle) (kind : Kind) (slot : Nat) (since : List Operation) : Collected :=
  if .drop slot ∈ since then .dropped
  else
    match since.dropWhile fun operation => !operation.decides handle kind with
    | [] => .nothingYet
    | decisive :: later =>
        match decisive.answer? with
        | none => .closed
        | some response => if .poll slot ∈ later then .closed else .response kind response

/-- What an operation does to the request that was made as number `slot`. -/
def Request.follow (slot : Nat) (request : Request) : Operation → Request
  | .expect handle _ =>
      if request.handle = handle && request.isOpen then request.close else request
  | .forget handle =>
      if request.handle = handle && request.isOpen then request.close else request
  | .callback handle callback =>
      if request.handle = handle && request.isOpen && callback.answers request.kind then
        request.answer callback.response.1
      else request
  | .poll other => if other = slot then request.collect.1 else request
  | .drop other => if other = slot then { request with mailbox := .dropped } else request

namespace Switchboard

variable {board : Switchboard}

@[simp] theorem modifyWaiting_getElem? (handle : Handle) (change : Request → Request)
    (slot : Nat) :
    (board.modifyWaiting handle change).requests[slot]? =
      board.requests[slot]?.map fun request =>
        if request.handle = handle && request.isOpen then change request else request := by
  simp [modifyWaiting]

theorem collect_getElem? (slot index : Nat) :
    (board.collect slot).2.requests[index]? =
      board.requests[index]?.map fun request =>
        if slot = index then request.collect.1 else request := by
  unfold collect
  by_cases same : slot = index
  · subst same
    cases found : board.requests[slot]? with
    | none => simp [found]
    | some request =>
        have inside := (List.getElem?_eq_some_iff.mp found).1
        simp [inside]
  · cases board.requests[slot]? <;> simp [same, List.getElem?_set_ne]

theorem drop_getElem? (slot index : Nat) :
    (board.drop slot).requests[index]? =
      board.requests[index]?.map fun request =>
        if slot = index then { request with mailbox := .dropped } else request := by
  by_cases same : slot = index <;> simp [drop, same]

/-- A waiting request is the one found waiting under its handle. -/
theorem waiting?_eq (orderly : board.Orderly) {slot : Nat} {request : Request}
    (found : board.requests[slot]? = some request) (waits : request.isOpen = true) :
    board.waiting? request.handle = some request := by
  obtain ⟨inside, rfl⟩ := List.getElem?_eq_some_iff.mp found
  refine List.find?_eq_some_iff_getElem.mpr ⟨by simp [waits], slot, inside, rfl, ?_⟩
  intro earlier before
  have closed := List.pairwise_iff_getElem.mp orderly earlier slot (by omega) inside before
  by_cases same : board.requests[earlier].handle = board.requests[slot].handle
  · simp [closed same]
  · simp [same]

/-- What routing a callback leaves of the switchboard. -/
theorem route_board (handle : Handle) (callback : Callback) :
    (board.route handle callback).2.2 =
      match board.waiting? handle with
      | none => board
      | some request =>
          if callback.answers request.kind then board.settle handle callback.response.1
          else board := by
  unfold route
  cases board.waiting? handle with
  | none => rfl
  | some request =>
      simp only
      split <;> rfl

/-- What an operation does to one request does not depend on the others. -/
theorem perform_follows (orderly : board.Orderly) {slot : Nat} {request : Request}
    (found : board.requests[slot]? = some request) (operation : Operation) :
    (board.perform operation).requests[slot]? = some (request.follow slot operation) := by
  cases operation with
  | expect handle kind =>
      have inside := (List.getElem?_eq_some_iff.mp found).1
      have left : slot < (board.forget handle).requests.length := by
        simpa [forget, modifyWaiting] using inside
      rw [perform, expect, List.getElem?_append_left left, forget, modifyWaiting_getElem?, found]
      rfl
  | forget handle =>
      rw [perform, forget, modifyWaiting_getElem?, found]
      rfl
  | callback handle callback =>
      rw [perform, route_board]
      by_cases waits : request.handle = handle ∧ request.isOpen = true
      · obtain ⟨rfl, isOpen⟩ := waits
        rw [waiting?_eq orderly found isOpen]
        cases answers : callback.answers request.kind <;>
          simp [Request.follow, settle, found, isOpen, answers]
      · have spared : (request.handle = handle && request.isOpen) = false := by
          simpa using waits
        have untouched : request.follow slot (.callback handle callback) = request := by
          simp [Request.follow, spared]
        rw [untouched]
        split
        · exact found
        · split
          · rw [settle, modifyWaiting_getElem?, found, Option.map_some, spared]
            rfl
          · exact found
  | poll other =>
      rw [perform, collect_getElem?, found]
      rfl
  | drop other =>
      rw [perform, drop_getElem?, found]
      rfl

/-- One switchboard comes from another by changes to its requests that reopen none. -/
def Changes (board next : Switchboard) : Prop :=
  ∃ change : Nat → Request → Request,
    (∀ slot, next.requests[slot]? = board.requests[slot]?.map (change slot)) ∧
      ∀ slot request, (change slot request).handle = request.handle ∧
        ((change slot request).isOpen = true → request.isOpen = true)

theorem Changes.refl (board : Switchboard) : board.Changes board :=
  ⟨fun _ => id, by simp, by simp⟩

theorem modifyWaiting_changes (handle : Handle) {change : Request → Request}
    (keeps : ∀ request, (change request).handle = request.handle) :
    board.Changes (board.modifyWaiting handle change) := by
  refine ⟨_, modifyWaiting_getElem? handle change, fun slot request => ?_⟩
  split <;> simp_all

/-- Whatever does not make a request changes those that were made. -/
theorem perform_changes {operation : Operation}
    (askless : ∀ handle kind, operation ≠ .expect handle kind) :
    board.Changes (board.perform operation) := by
  cases operation with
  | expect handle kind => exact absurd rfl (askless handle kind)
  | forget handle => exact modifyWaiting_changes handle fun _ => rfl
  | callback handle callback =>
      rw [perform, route_board]
      split
      · exact .refl board
      · split
        · exact modifyWaiting_changes handle fun _ => rfl
        · exact .refl board
  | poll slot =>
      refine ⟨_, collect_getElem? slot, fun index request => ?_⟩
      split
      · cases mailbox : request.mailbox <;> simp [Request.collect, mailbox]
      · simp
  | drop slot =>
      refine ⟨_, drop_getElem? slot, fun index request => ?_⟩
      split <;> simp

theorem Orderly.changes {next : Switchboard} (orderly : board.Orderly)
    (changes : board.Changes next) : next.Orderly := by
  obtain ⟨change, changed, keeps⟩ := changes
  apply List.pairwise_iff_getElem.mpr
  intro first second insideFirst insideSecond order same
  have earlier := (changed first).symm.trans (List.getElem?_eq_getElem insideFirst)
  have later := (changed second).symm.trans (List.getElem?_eq_getElem insideSecond)
  obtain ⟨before, found, unchanged⟩ := Option.map_eq_some_iff.mp earlier
  obtain ⟨other, isThere, kept⟩ := Option.map_eq_some_iff.mp later
  rw [← unchanged, ← kept, (keeps _ _).1, (keeps _ _).1] at same
  obtain ⟨_, rfl⟩ := List.getElem?_eq_some_iff.mp found
  obtain ⟨_, rfl⟩ := List.getElem?_eq_some_iff.mp isThere
  have closed := List.pairwise_iff_getElem.mp orderly first second _ _ order same
  rw [← unchanged]
  exact Bool.eq_false_iff.mpr fun isOpen => by simp [(keeps first _).2 isOpen] at closed

/-- Operations keep a switchboard orderly: what waits under a handle is closed when the
handle asks again. -/
theorem Orderly.perform (orderly : board.Orderly) (operation : Operation) :
    (board.perform operation).Orderly := by
  by_cases asks : ∃ handle kind, operation = .expect handle kind
  · obtain ⟨handle, kind, rfl⟩ := asks
    have forgotten : (board.forget handle).Orderly :=
      orderly.changes (modifyWaiting_changes handle fun _ => rfl)
    refine List.pairwise_append.mpr ⟨forgotten, List.pairwise_singleton ..,
      fun earlier member later new same => ?_⟩
    obtain rfl := List.mem_singleton.mp new
    obtain ⟨before, isThere, rfl⟩ := List.mem_map.mp member
    split at same <;> simp_all [Request.close]
  · exact orderly.changes (perform_changes fun handle kind same => asks ⟨handle, kind, same⟩)

theorem Orderly.performAll (orderly : board.Orderly) (operations : List Operation) :
    (board.performAll operations).Orderly := by
  induction operations generalizing board with
  | nil => exact orderly
  | cons operation rest inductionHypothesis => exact inductionHypothesis (orderly.perform operation)

/-- A run of operations is followed by each request. -/
theorem performAll_follows (orderly : board.Orderly) {slot : Nat} {request : Request}
    (found : board.requests[slot]? = some request) (operations : List Operation) :
    (board.performAll operations).requests[slot]? =
      some (operations.foldl (Request.follow slot) request) := by
  induction operations generalizing board request with
  | nil => exact found
  | cons operation rest inductionHypothesis =>
      exact inductionHypothesis (orderly.perform operation)
        (perform_follows orderly found operation)

end Switchboard

/-- A mailbox after its answer, if there is one, was taken out. -/
def Mailbox.emptied : Mailbox → Mailbox
  | holding _ => taken
  | mailbox => mailbox

namespace Request

variable {slot : Nat} {handle : Handle} {kind : Kind} {mailbox : Mailbox}

/-- Until it is decided, a request waits; at most its mailbox is dropped. -/
theorem follow_calm {operation : Operation}
    (unanswered : mailbox = .empty ∨ mailbox = .dropped)
    (calm : operation.decides handle kind = false) :
    Request.follow slot ⟨handle, kind, true, mailbox⟩ operation =
      ⟨handle, kind, true, if operation = .drop slot then .dropped else mailbox⟩ := by
  cases operation with
  | expect other asked =>
      have foreign : other ≠ handle := by simpa [Operation.decides] using calm
      simp [follow, Ne.symm foreign]
  | forget other =>
      have foreign : other ≠ handle := by simpa [Operation.decides] using calm
      simp [follow, Ne.symm foreign]
  | callback other arrived =>
      by_cases same : other = handle
      · subst same
        have mismatched : arrived.answers kind = false := by
          simpa [Operation.decides] using calm
        simp [follow, mismatched]
      · simp [follow, Ne.symm same]
  | poll other => rcases unanswered with rfl | rfl <;> simp [follow, collect]
  | drop other => by_cases same : other = slot <;> simp [follow, same]

theorem follow_all_calm {operations : List Operation}
    (unanswered : mailbox = .empty ∨ mailbox = .dropped)
    (calm : ∀ operation ∈ operations, operation.decides handle kind = false) :
    operations.foldl (Request.follow slot) ⟨handle, kind, true, mailbox⟩ =
      ⟨handle, kind, true, if .drop slot ∈ operations then .dropped else mailbox⟩ := by
  induction operations generalizing mailbox with
  | nil => simp
  | cons operation rest inductionHypothesis =>
      have first := calm operation (List.mem_cons_self ..)
      rw [List.foldl_cons, follow_calm unanswered first, inductionHypothesis ?_ ?_]
      · by_cases drops : operation = .drop slot <;> simp [drops, eq_comm]
      · split
        · exact .inr rfl
        · exact unanswered
      · exact fun later member => calm later (List.mem_cons_of_mem _ member)

/-- The operation that decides a request closes it, with its answer if it gives one. -/
theorem follow_decisive {operation : Operation}
    (decides : operation.decides handle kind = true) :
    Request.follow slot ⟨handle, kind, true, mailbox⟩ operation =
      ⟨handle, kind, false,
        match operation.answer? with
        | none => mailbox
        | some response => if mailbox = .empty then .holding response else mailbox⟩ := by
  cases operation with
  | expect other asked => simp_all [follow, Operation.decides, Operation.answer?, close]
  | forget other => simp_all [follow, Operation.decides, Operation.answer?, close]
  | callback other arrived =>
      simp only [Operation.decides, Bool.and_eq_true, decide_eq_true_eq] at decides
      obtain ⟨rfl, answers⟩ := decides
      cases arrived <;>
        simp [follow, answers, answer, Operation.answer?, Callback.response,
          Callback.connectionLost]
  | poll other => simp [Operation.decides] at decides
  | drop other => simp [Operation.decides] at decides

theorem follow_closed (operation : Operation) :
    Request.follow slot ⟨handle, kind, false, mailbox⟩ operation =
      ⟨handle, kind, false,
        if operation = .drop slot then .dropped
        else if operation = .poll slot then mailbox.emptied else mailbox⟩ := by
  cases operation with
  | expect | forget | callback => simp [follow]
  | poll other =>
      by_cases same : other = slot
      · cases mailbox <;> simp [follow, same, collect, Mailbox.emptied]
      · simp [follow, same]
  | drop other => by_cases same : other = slot <;> simp [follow, same]

/-- After it was decided, a request is closed for good. -/
theorem follow_all_closed (operations : List Operation) :
    operations.foldl (Request.follow slot) ⟨handle, kind, false, mailbox⟩ =
      ⟨handle, kind, false,
        if .drop slot ∈ operations then .dropped
        else if .poll slot ∈ operations then mailbox.emptied else mailbox⟩ := by
  induction operations generalizing mailbox with
  | nil => simp
  | cons operation rest inductionHypothesis =>
      rw [List.foldl_cons, follow_closed, inductionHypothesis]
      by_cases drops : operation = .drop slot
      · subst drops
        simp [Mailbox.emptied]
      · by_cases polls : operation = .poll slot
        · subst polls
          cases mailbox <;> simp [Mailbox.emptied]
        · simp [drops, polls, Ne.symm drops, Ne.symm polls]

/-- What becomes of a request by what is done after it was made. -/
theorem follow_since (handle : Handle) (kind : Kind) (slot : Nat) (since : List Operation) :
    ∃ mailbox, since.foldl (Request.follow slot) ⟨handle, kind, true, .empty⟩ =
        ⟨handle, kind, !since.any (·.decides handle kind), mailbox⟩ ∧
      (Request.collect ⟨handle, kind, !since.any (·.decides handle kind), mailbox⟩).2 =
        fateOf handle kind slot since := by
  unfold fateOf
  cases found : since.find? (·.decides handle kind) with
  | none =>
      have calm : ∀ operation ∈ since, operation.decides handle kind = false := by
        simpa using List.find?_eq_none.mp found
      have undecided : since.any (·.decides handle kind) = false := by simpa using calm
      have nothing : (since.dropWhile fun operation => !operation.decides handle kind) = [] :=
        List.dropWhile_eq_nil_iff.mpr (by simpa using calm)
      rw [undecided, nothing]
      refine ⟨_, follow_all_calm (.inl rfl) calm, ?_⟩
      by_cases drops : .drop slot ∈ since <;> simp [drops, collect]
  | some decisive =>
      obtain ⟨decides, calm, later, rfl, calmly⟩ := List.find?_eq_some_iff_append.mp found
      have undecided : ∀ operation ∈ calm, operation.decides handle kind = false := by
        simpa using calmly
      have decided : (calm ++ decisive :: later).any (·.decides handle kind) = true := by
        simp [decides]
      have rest : ((calm ++ decisive :: later).dropWhile fun operation =>
          !operation.decides handle kind) = decisive :: later := by
        rw [List.dropWhile_append_of_pos (by simpa using undecided),
          List.dropWhile_cons_of_neg (by simp [decides])]
      rw [decided, rest]
      refine ⟨_, by rw [List.foldl_append, follow_all_calm (.inl rfl) undecided, List.foldl_cons,
        follow_decisive decides, follow_all_closed, Bool.not_true], ?_⟩
      have undropped : decisive ≠ .drop slot := fun drops => by
        simp [drops, Operation.decides] at decides
      simp only [List.mem_append, List.mem_cons, Ne.symm undropped, false_or]
      by_cases before : .drop slot ∈ calm
      · cases decisive.answer? <;> simp [before, Mailbox.emptied, collect]
      · by_cases after : .drop slot ∈ later
        · simp [before, after, collect]
        · by_cases polled : .poll slot ∈ later <;>
            cases decisive.answer? <;>
              simp [before, after, polled, Mailbox.emptied, collect]

end Request

namespace Switchboard

variable {board : Switchboard}

/-- From a place on, no request was made under a handle. -/
def QuietFrom (board : Switchboard) (handle : Handle) (start : Nat) : Prop :=
  ∀ slot request, start ≤ slot → board.requests[slot]? = some request →
    request.handle ≠ handle

theorem QuietFrom.changes {next : Switchboard} {handle : Handle} {start : Nat}
    (quiet : board.QuietFrom handle start) (changes : board.Changes next) :
    next.QuietFrom handle start := by
  obtain ⟨change, changed, keeps⟩ := changes
  intro slot request late found
  rw [changed, Option.map_eq_some_iff] at found
  obtain ⟨before, isThere, rfl⟩ := found
  rw [(keeps slot before).1]
  exact quiet slot before late isThere

/-- Only asking under a handle makes requests under it. -/
theorem QuietFrom.perform {handle : Handle} {start : Nat} (quiet : board.QuietFrom handle start)
    {operation : Operation} (unasked : ∀ kind, operation ≠ .expect handle kind) :
    (board.perform operation).QuietFrom handle start := by
  by_cases asks : ∃ other kind, operation = .expect other kind
  · obtain ⟨other, kind, rfl⟩ := asks
    have forgotten : (board.forget other).QuietFrom handle start :=
      quiet.changes (modifyWaiting_changes other fun _ => rfl)
    intro slot request late found
    rw [Switchboard.perform, expect, List.getElem?_append] at found
    split at found
    · exact forgotten slot request late found
    · rw [List.getElem?_singleton] at found
      split at found
      · obtain rfl := Option.some.inj found
        exact fun same => unasked kind (same ▸ rfl)
      · simp at found
  · exact quiet.changes (perform_changes fun other kind same => asks ⟨other, kind, same⟩)

theorem QuietFrom.performAll {handle : Handle} {start : Nat}
    (quiet : board.QuietFrom handle start) {operations : List Operation}
    (unasked : ∀ kind, .expect handle kind ∉ operations) :
    (board.performAll operations).QuietFrom handle start := by
  induction operations generalizing board with
  | nil => exact quiet
  | cons operation rest inductionHypothesis =>
      refine inductionHypothesis (quiet.perform fun kind same => ?_) fun kind member => ?_
      · exact unasked kind (same ▸ List.mem_cons_self ..)
      · exact unasked kind (List.mem_cons_of_mem _ member)

/-- What waits under a handle is the last request that was made under it, if that is open. -/
theorem waiting?_last (orderly : board.Orderly) {slot : Nat} {request : Request}
    (found : board.requests[slot]? = some request)
    (last : board.QuietFrom request.handle (slot + 1)) :
    board.waiting? request.handle = if request.isOpen then some request else none := by
  split
  · next isOpen => exact waiting?_eq orderly found isOpen
  · next closed =>
    refine List.find?_eq_none.mpr fun other member => ?_
    obtain ⟨index, inside, rfl⟩ := List.getElem_of_mem member
    simp only [Bool.and_eq_true, decide_eq_true_eq, not_and]
    intro same
    obtain ⟨here, rfl⟩ := List.getElem?_eq_some_iff.mp found
    rcases Nat.lt_trichotomy index slot with before | rfl | after
    · simp [List.pairwise_iff_getElem.mp orderly index slot inside here before same]
    · exact closed
    · exact absurd same (last index _ after (List.getElem?_eq_getElem inside))

theorem waiting?_none {handle : Handle} (quiet : board.QuietFrom handle 0) :
    board.waiting? handle = none := by
  refine List.find?_eq_none.mpr fun other member => ?_
  obtain ⟨index, found⟩ := List.getElem?_of_mem member
  simp [quiet index other (Nat.zero_le _) found]

/-- What routing a callback comes to. -/
theorem route_outcome (handle : Handle) (callback : Callback) :
    (board.route handle callback).1 =
      match board.waiting? handle with
      | none => .finished
      | some request => if callback.answers request.kind then .answered else .mismatched := by
  unfold route
  cases board.waiting? handle with
  | none => rfl
  | some request =>
      simp only
      split <;> rfl

/-- A callback that answers nothing changes nothing. -/
theorem route_unanswered {handle : Handle} {callback : Callback}
    (unanswered : (board.route handle callback).1 ≠ .answered) :
    (board.route handle callback).2.2 = board := by
  rw [route_outcome] at unanswered
  rw [route_board]
  cases waiting : board.waiting? handle with
  | none => rfl
  | some request =>
      simp only [waiting] at unanswered ⊢
      split
      · next answers => simp [answers] at unanswered
      · rfl

end Switchboard

section Fate

variable {handle : Handle} {kind : Kind} {slot : Nat} {since : List Operation}

/-- Once a request was decided, only a look into its mailbox or the drop of it changes what is
found there. -/
theorem fateOf_decided (decided : since.any (·.decides handle kind) = true)
    {more : List Operation} (undropped : .drop slot ∉ more) (unpolled : .poll slot ∉ more) :
    fateOf handle kind slot (since ++ more) = fateOf handle kind slot since := by
  unfold fateOf
  rw [List.dropWhile_append]
  cases rest : since.dropWhile fun operation => !operation.decides handle kind with
  | nil =>
      obtain ⟨decisive, member, decides⟩ := List.any_eq_true.mp decided
      simpa [decides] using List.dropWhile_eq_nil_iff.mp rest decisive member
  | cons decisive later => simp [undropped, unpolled]

/-- An answer is found once. -/
theorem fateOf_taken {response : Billing.Response} (more : List Operation)
    (answered : fateOf handle kind slot since = .response kind response) :
    fateOf handle kind slot (since ++ .poll slot :: more) = .closed ∨
      fateOf handle kind slot (since ++ .poll slot :: more) = .dropped := by
  unfold fateOf at answered ⊢
  rw [List.dropWhile_append]
  cases rest : since.dropWhile fun operation => !operation.decides handle kind with
  | nil =>
      rw [rest] at answered
      split at answered <;> simp at answered
  | cons decisive later =>
      rw [rest] at answered
      by_cases dropped : .drop slot ∈ since ++ .poll slot :: more
      · exact .inr (if_pos dropped)
      · refine .inl ?_
        rw [if_neg dropped]
        cases answer : decisive.answer? <;> simp [answer]

end Fate

namespace Switchboard

variable (past since : List Operation) (handle : Handle) (kind : Kind)

theorem after_orderly (operations : List Operation) : (after operations).Orderly :=
  Orderly.performAll List.Pairwise.nil operations

theorem after_expect :
    after (past ++ .expect handle kind :: since) =
      ((after past).expect handle kind).performAll since := by
  simp [after, performAll, perform]

/-- A request made after `past`, once the operations `since` were done. -/
theorem after_request :
    ∃ mailbox,
      (after (past ++ .expect handle kind :: since)).requests[(after past).requests.length]? =
        some ⟨handle, kind, !since.any (·.decides handle kind), mailbox⟩ ∧
      (Request.collect ⟨handle, kind, !since.any (·.decides handle kind), mailbox⟩).2 =
        fateOf handle kind (after past).requests.length since := by
  have orderly : ((after past).expect handle kind).Orderly :=
    (after_orderly past).perform (.expect handle kind)
  have made : ((after past).expect handle kind).requests[(after past).requests.length]? =
      some ⟨handle, kind, true, .empty⟩ := by
    simp [expect, forget, modifyWaiting]
  rw [after_expect, performAll_follows orderly made]
  obtain ⟨mailbox, request, fate⟩ := Request.follow_since handle kind
    (after past).requests.length since
  exact ⟨mailbox, congrArg some request, fate⟩

/-- The life of a request that is made after `past`, seen once the operations `since` were
done, whatever these are. -/
structure Fate : Prop where
  /-- The first operation that decides the request decides what its mailbox holds. -/
  found : finds past handle kind since = fateOf handle kind (after past).requests.length since
  /-- An answer is found once. -/
  once : ∀ response more, finds past handle kind since = .response kind response →
    finds past handle kind (since ++ .poll (after past).requests.length :: more) = .closed ∨
      finds past handle kind (since ++ .poll (after past).requests.length :: more) = .dropped
  /-- Once the request is decided, nothing but a look or a drop changes what is found. -/
  settled : since.any (·.decides handle kind) = true → ∀ more,
    .drop (after past).requests.length ∉ more → .poll (after past).requests.length ∉ more →
    finds past handle kind (since ++ more) = finds past handle kind since
  /-- Until its handle asks again, a callback under it is told what the request is: decided,
  or waiting for this answer, or for another. -/
  told : (∀ other, .expect handle other ∉ since) → ∀ callback,
    ((after (past ++ .expect handle kind :: since)).route handle callback).1 =
      if since.any (·.decides handle kind) then .finished
      else if callback.answers kind then .answered else .mismatched
  /-- A callback for a handle that never asked is told that nobody waits. -/
  unasked : (∀ other, .expect handle other ∉ past) → ∀ callback,
    ((after past).route handle callback).1 = .finished
  /-- A callback that answers nothing changes nothing. -/
  unchanged : ∀ other callback,
    ((after (past ++ .expect handle kind :: since)).route other callback).1 ≠ .answered →
    ((after (past ++ .expect handle kind :: since)).route other callback).2.2 =
      after (past ++ .expect handle kind :: since)

theorem finds_eq : finds past handle kind since =
    fateOf handle kind (after past).requests.length since := by
  obtain ⟨mailbox, request, fate⟩ := after_request past since handle kind
  rw [← fate, finds, collect, request]

/-- Every request that was ever made has the life it should. -/
theorem request_fate : Fate past since handle kind where
  found := finds_eq past since handle kind
  once response more answered := by
    rw [finds_eq] at answered ⊢
    exact fateOf_taken more answered
  settled decided more undropped unpolled := by
    rw [finds_eq, finds_eq]
    exact fateOf_decided decided undropped unpolled
  told unasked callback := by
    obtain ⟨mailbox, request, _⟩ := after_request past since handle kind
    have quiet : ((after past).expect handle kind).QuietFrom handle
        ((after past).requests.length + 1) := by
      intro slot other late isThere
      have inside := (List.getElem?_eq_some_iff.mp isThere).1
      simp [expect, forget, modifyWaiting] at inside
      omega
    have last := quiet.performAll unasked
    rw [← after_expect] at last
    have waiting := waiting?_last (after_orderly _) request last
    rw [route_outcome, waiting]
    cases since.any (·.decides handle kind) <;> rfl
  unasked unasked callback := by
    have blank : QuietFrom {} handle 0 := by simp [QuietFrom]
    have quiet : (after past).QuietFrom handle 0 := blank.performAll unasked
    rw [route_outcome, waiting?_none quiet]
  unchanged other callback unanswered := route_unanswered unanswered

/-- A setup that finishes late does not answer the launch its session waits for. -/
example (result : Billing.Result) :
    finds [] 7 .launch [.callback 7 (.setupFinished ⟨.error, "late"⟩),
      .callback 7 (.launched result), .callback 7 .disconnected] =
        .response .launch ⟨result, none⟩ := by
  rfl

end Switchboard

end Storefront
