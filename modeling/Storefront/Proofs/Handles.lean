import Storefront.Proofs.Requests

/-!
# Handles are isolated

`Switchboard.under` is the part of a switchboard that belongs to one handle, and
`Switchboard.sequence` the part of a run of operations that is done under it. A step lemma says
that an operation under a handle does on the whole switchboard what it does on the handle's part,
and that any other leaves the part alone; so a run restricted to a handle is a run of its own.
-/

namespace Storefront

/-- What an operation gives back to whoever does it, and what it logs. -/
inductive Output where
  | done
  | routed (routed : Routed) (lines : List LogLine)
  | collected (collected : Collected)
deriving DecidableEq, Repr

/-- An operation with the requests it names numbered anew. -/
def Operation.renumber (place : Nat → Nat) : Operation → Operation
  | poll slot => .poll (place slot)
  | drop slot => .drop (place slot)
  | operation => operation

namespace Switchboard

/-- What an operation gives back. -/
def output (board : Switchboard) : Operation → Output
  | .callback handle callback =>
      .routed (board.route handle callback).1 (board.route handle callback).2.1
  | .poll slot => .collected (board.collect slot).1
  | .expect .. | .forget _ | .drop _ => .done

/-- What the operations of a run give back, in order. -/
def outputs (board : Switchboard) : List Operation → List Output
  | [] => []
  | operation :: rest => board.output operation :: (board.perform operation).outputs rest

/-- The requests made under a handle. -/
def under (board : Switchboard) (handle : Handle) : Switchboard :=
  ⟨board.requests.filter (·.handle = handle)⟩

/-- How many requests were made under a handle before the one with a number. -/
def place (board : Switchboard) (handle : Handle) (slot : Nat) : Nat :=
  (board.requests.take slot).countP (·.handle = handle)

/-- The handle an operation is done under. A look into a mailbox and the drop of it are done
under the handle of the request. -/
def handleOf (board : Switchboard) : Operation → Option Handle
  | .expect handle _ | .forget handle | .callback handle _ => some handle
  | .poll slot | .drop slot => board.requests[slot]?.map (·.handle)

/-- The operations of a run that are done under a handle, all others removed. The requests they
name are numbered among those of the handle. -/
def sequence (handle : Handle) (board : Switchboard) : List Operation → List Operation
  | [] => []
  | operation :: rest =>
      if board.handleOf operation = some handle then
        operation.renumber (board.place handle) :: (board.perform operation).sequence handle rest
      else (board.perform operation).sequence handle rest

/-- What the operations of a run that are done under a handle give back, in order. -/
def outputsUnder (handle : Handle) (board : Switchboard) : List Operation → List Output
  | [] => []
  | operation :: rest =>
      if board.handleOf operation = some handle then
        board.output operation :: (board.perform operation).outputsUnder handle rest
      else (board.perform operation).outputsUnder handle rest

end Switchboard

section Filter

variable {Item : Type} {items : List Item} {slot : Nat} {item : Item} {test : Item → Bool}

/-- A list, parted at one of its items. -/
theorem parted_at (found : items[slot]? = some item) :
    items = items.take slot ++ item :: items.drop (slot + 1) := by
  obtain ⟨inside, rfl⟩ := List.getElem?_eq_some_iff.mp found
  rw [← List.drop_eq_getElem_cons inside, List.take_append_drop]

/-- Where an item is that stays in a list when others are removed. -/
theorem filter_getElem?_countP (found : items[slot]? = some item) (stays : test item = true) :
    (items.filter test)[(items.take slot).countP test]? = some item := by
  have left : (items.filter test) =
      (items.take slot).filter test ++ item :: (items.drop (slot + 1)).filter test := by
    conv => lhs; rw [parted_at found]
    simp [stays]
  rw [left, List.countP_eq_length_filter, List.getElem?_append_right (Nat.le_refl _)]
  simp

/-- An item that stays in a list is exchanged there. -/
theorem filter_set_of_pos {other : Item} (found : items[slot]? = some item)
    (stays : test item = true) (alike : test other = true) :
    (items.set slot other).filter test =
      (items.filter test).set ((items.take slot).countP test) other := by
  have inside := (List.getElem?_eq_some_iff.mp found).1
  have left : (items.filter test) =
      (items.take slot).filter test ++ item :: (items.drop (slot + 1)).filter test := by
    conv => lhs; rw [parted_at found]
    simp [stays]
  rw [left, List.countP_eq_length_filter, List.set_append_right _ _ (Nat.le_refl _), Nat.sub_self,
    List.set_cons_zero, List.set_eq_take_append_cons_drop, if_pos inside, List.filter_append,
    List.filter_cons_of_pos alike]

/-- An item that is removed from a list leaves nothing behind, whatever it is exchanged for. -/
theorem filter_set_of_neg {other : Item} (found : items[slot]? = some item)
    (goes : ¬ test item = true) (alike : ¬ test other = true) :
    (items.set slot other).filter test = items.filter test := by
  have inside := (List.getElem?_eq_some_iff.mp found).1
  have left : (items.filter test) =
      (items.take slot).filter test ++ (items.drop (slot + 1)).filter test := by
    conv => lhs; rw [parted_at found]
    simp [goes]
  rw [left, List.set_eq_take_append_cons_drop, if_pos inside, List.filter_append,
    List.filter_cons_of_neg alike]

end Filter

@[simp] theorem Request.collect_handle (request : Request) :
    request.collect.1.handle = request.handle := by
  cases mailbox : request.mailbox <;> simp [collect, mailbox]

namespace Switchboard

variable {board : Switchboard} {handle : Handle}

/-- What waits under a handle is among the handle's own requests. -/
@[simp] theorem waiting?_under (board : Switchboard) (handle : Handle) :
    (board.under handle).waiting? handle = board.waiting? handle := by
  unfold waiting? under
  rw [List.find?_filter]
  congr 1
  funext request
  simp only [Bool.decide_and, Bool.decide_eq_true]
  cases decide (request.handle = handle) <;> rfl

/-- A change to whatever waits under a handle is one to the handle's part, and to no other. -/
theorem modifyWaiting_under (other : Handle) {change : Request → Request}
    (keeps : ∀ request, (change request).handle = request.handle) :
    (board.modifyWaiting other change).under handle =
      if other = handle then (board.under handle).modifyWaiting other change
      else board.under handle := by
  unfold modifyWaiting under
  have same : (fun request : Request => decide
      ((if request.handle = other && request.isOpen then change request else request).handle =
        handle)) = fun request => decide (request.handle = handle) := by
    funext request
    split <;> simp [keeps]
  rw [List.filter_map, Function.comp_def, same]
  split
  · rfl
  · next foreign =>
    congr 1
    refine (List.map_congr_left fun request member => ?_).trans (List.map_id _)
    have own : request.handle = handle := by simpa using (List.mem_filter.mp member).2
    simp [own, Ne.symm foreign]

theorem forget_under (other : Handle) :
    (board.forget other).under handle =
      if other = handle then (board.under handle).forget other else board.under handle :=
  modifyWaiting_under other fun _ => rfl

theorem settle_under (other : Handle) (response : Billing.Response) :
    (board.settle other response).under handle =
      if other = handle then (board.under handle).settle other response
      else board.under handle :=
  modifyWaiting_under other fun _ => rfl

theorem expect_under (other : Handle) (kind : Kind) :
    (board.expect other kind).under handle =
      if other = handle then (board.under handle).expect other kind else board.under handle := by
  have parts : (board.expect other kind).under handle =
      ⟨((board.forget other).under handle).requests ++
        if other = handle then [⟨other, kind, true, .empty⟩] else []⟩ := by
    by_cases own : other = handle <;> simp [expect, under, own]
  rw [parts, forget_under]
  split
  · rfl
  · simp

/-- What routing a callback comes to depends on nothing but what waits under its handle. -/
theorem route_congr {other : Switchboard} (same : board.waiting? handle = other.waiting? handle)
    (callback : Callback) :
    (board.route handle callback).1 = (other.route handle callback).1 ∧
      (board.route handle callback).2.1 = (other.route handle callback).2.1 := by
  unfold route
  rw [same]
  cases other.waiting? handle with
  | none => exact ⟨rfl, rfl⟩
  | some request =>
      simp only
      split <;> exact ⟨rfl, rfl⟩

theorem route_under (other : Handle) (callback : Callback) :
    (board.route other callback).2.2.under handle =
      if other = handle then ((board.under handle).route other callback).2.2
      else board.under handle := by
  rw [route_board, route_board]
  by_cases own : other = handle
  · subst own
    rw [waiting?_under, if_pos rfl]
    cases board.waiting? other with
    | none => rfl
    | some request =>
        simp only
        split
        · exact (settle_under other _).trans (if_pos rfl)
        · rfl
  · rw [if_neg own]
    cases board.waiting? other with
    | none => rfl
    | some request =>
        simp only
        split
        · exact (settle_under other _).trans (if_neg own)
        · rfl

section Mailbox

variable {slot : Nat} {request : Request} (found : board.requests[slot]? = some request)
include found

/-- A request stands at its place among those of its handle. -/
theorem under_getElem? :
    (board.under request.handle).requests[board.place request.handle slot]? = some request :=
  filter_getElem?_countP found (by simp)

/-- A request that is exchanged for one of the same handle is exchanged in the handle's part. -/
theorem set_under {next : Request} (same : next.handle = request.handle) :
    under ⟨board.requests.set slot next⟩ handle =
      if request.handle = handle then
        ⟨(board.under handle).requests.set (board.place handle slot) next⟩
      else board.under handle := by
  unfold under place
  split
  · next own => exact congrArg _ (filter_set_of_pos found (by simp [own]) (by simp [own, same]))
  · next foreign =>
    exact congrArg _ (filter_set_of_neg found (by simp [foreign]) (by simp [foreign, same]))

theorem collect_found :
    board.collect slot = (request.collect.2, ⟨board.requests.set slot request.collect.1⟩) := by
  simp [collect, found]

theorem drop_found :
    board.drop slot = ⟨board.requests.set slot { request with mailbox := .dropped }⟩ := by
  obtain ⟨inside, rfl⟩ := List.getElem?_eq_some_iff.mp found
  rw [drop, List.modify_eq_take_cons_drop inside, List.set_eq_take_append_cons_drop, if_pos inside]

end Mailbox

/-- An operation under a handle does to the handle's part what it does to the whole, and leaves
the parts of all other handles alone. -/
theorem perform_under (operation : Operation) :
    (board.perform operation).under handle =
      if board.handleOf operation = some handle then
        (board.under handle).perform (operation.renumber (board.place handle))
      else board.under handle := by
  cases operation with
  | expect other kind =>
      simp only [perform, handleOf, Operation.renumber, Option.some.injEq]
      exact expect_under other kind
  | forget other =>
      simp only [perform, handleOf, Operation.renumber, Option.some.injEq]
      exact forget_under other
  | callback other callback =>
      simp only [perform, handleOf, Operation.renumber, Option.some.injEq]
      exact route_under other callback
  | poll slot =>
      cases found : board.requests[slot]? with
      | none => simp [handleOf, found, perform, collect]
      | some request =>
          simp only [perform, collect_found found, set_under found request.collect_handle, handleOf,
            found, Option.map_some, Option.some.injEq]
          split
          · next own =>
            subst own
            simp only [Operation.renumber, collect_found (under_getElem? found)]
          · rfl
  | drop slot =>
      cases found : board.requests[slot]? with
      | none =>
          have outside : board.requests.length ≤ slot := List.getElem?_eq_none_iff.mp found
          simp [handleOf, found, perform, drop, List.modify_eq_self outside]
      | some request =>
          have exchanged :
              under ⟨board.requests.set slot { request with mailbox := .dropped }⟩ handle = _ :=
            set_under found rfl
          simp only [perform, drop_found found, exchanged, handleOf, found, Option.map_some,
            Option.some.injEq]
          split
          · next own =>
            subst own
            simp only [Operation.renumber, drop_found (under_getElem? found)]
          · rfl

/-- An operation under a handle gives back what it gives back on the handle's part. -/
theorem output_under {operation : Operation} (own : board.handleOf operation = some handle) :
    (board.under handle).output (operation.renumber (board.place handle)) =
      board.output operation := by
  cases operation with
  | expect | forget => rfl
  | callback other callback =>
      obtain rfl : other = handle := by simpa [handleOf] using own
      obtain ⟨outcome, lines⟩ := route_congr (board.waiting?_under other) callback
      simp only [Operation.renumber, output, outcome, lines]
  | poll slot =>
      obtain ⟨request, found, rfl⟩ := Option.map_eq_some_iff.mp own
      simp only [Operation.renumber, output, collect_found found,
        collect_found (under_getElem? found)]
  | drop slot => rfl

/-- A run does to the part of a handle what the operations under the handle do to it. -/
theorem performAll_under (board : Switchboard) (operations : List Operation) :
    (board.performAll operations).under handle =
      (board.under handle).performAll (board.sequence handle operations) := by
  induction operations generalizing board with
  | nil => rfl
  | cons operation rest inductionHypothesis =>
      have step : (board.perform operation).under handle = _ := perform_under operation
      rw [sequence]
      split
      · next own =>
        rw [if_pos own] at step
        exact (inductionHypothesis _).trans (by rw [step]; rfl)
      · next foreign =>
        rw [if_neg foreign] at step
        exact (inductionHypothesis _).trans (by rw [step])

/-- In a run, the operations under a handle give back what they give back without the others. -/
theorem outputsUnder_eq (board : Switchboard) (operations : List Operation) :
    board.outputsUnder handle operations =
      (board.under handle).outputs (board.sequence handle operations) := by
  induction operations generalizing board with
  | nil => rfl
  | cons operation rest inductionHypothesis =>
      have step : (board.perform operation).under handle = _ := perform_under operation
      rw [sequence, outputsUnder]
      split
      · next own =>
        rw [if_pos own] at step
        rw [outputs, output_under own, inductionHypothesis, step]
      · next foreign =>
        rw [if_neg foreign] at step
        rw [inductionHypothesis, step]

/-- Two runs agree on a handle: their operations under it give back the same, and leave the same
requests under it with the same in their mailboxes. -/
structure Agree (handle : Handle) (first second : List Operation) : Prop where
  outputs : outputsUnder handle {} first = outputsUnder handle {} second
  requests : (after first).under handle = (after second).under handle

/-- Handles are isolated. In every run, what the operations under a handle give back and log, and
the requests they leave with their mailboxes, are those of the run from which all other operations
were removed. So runs that do the same under a handle agree on it, however they mix that with what
they do under others; and those that do the same under every handle agree on all of them. -/
theorem handles_isolated (handle : Handle) :
    (∀ operations : List Operation,
        outputsUnder handle {} operations = outputs {} (sequence handle {} operations) ∧
          (after operations).under handle = after (sequence handle {} operations)) ∧
      ∀ first second : List Operation,
        sequence handle {} first = sequence handle {} second → Agree handle first second := by
  have alone : ∀ operations : List Operation,
      outputsUnder handle {} operations = outputs {} (sequence handle {} operations) ∧
        (after operations).under handle = after (sequence handle {} operations) :=
    fun operations => ⟨outputsUnder_eq {} operations, performAll_under {} operations⟩
  refine ⟨alone, fun first second same => ?_⟩
  obtain ⟨outputs, requests⟩ := alone first
  obtain ⟨others, left⟩ := alone second
  rw [← same] at others left
  exact ⟨outputs.trans others.symm, requests.trans left.symm⟩

/-- Two handles, the second of which is done before the first begins. -/
def inTurn : List Operation :=
  [.expect 8 .skuDetails, .callback 8 .disconnected, .poll 0, .expect 7 .setup,
    .callback 7 (.launched {}), .drop 1, .callback 7 (.setupFinished {})]

/-- The same two handles, mixed. -/
def mixed : List Operation :=
  [.expect 7 .setup, .expect 8 .skuDetails, .callback 7 (.launched {}), .callback 8 .disconnected,
    .drop 0, .callback 7 (.setupFinished {}), .poll 1]

/-- Each handle gets the same either way: the first a mismatch and an answer that nobody
receives, the second its lost connection. -/
theorem mixed_isolated :
    Agree 7 inTurn mixed ∧ Agree 8 inTurn mixed ∧
      (after mixed).under 7 = ⟨[⟨7, .setup, false, .dropped⟩]⟩ ∧
      outputsUnder 8 {} mixed =
        [.done, .routed .answered [],
          .collected (.response .skuDetails Callback.connectionLost)] := by
  refine ⟨(handles_isolated 7).2 inTurn mixed ?_, (handles_isolated 8).2 inTurn mixed ?_, ?_, ?_⟩
  all_goals decide

end Switchboard

end Storefront
