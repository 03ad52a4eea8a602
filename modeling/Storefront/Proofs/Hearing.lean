import Storefront.Backend.Routed
import Storefront.Backend.Scripted
import Storefront.Proofs.Requests
import Storefront.Proofs.Turns

/-!
# What a session hears

`observed` reads off a journal when the stages of a session were answered, and how, and makes a
script of it. The answers that sessions find at a switchboard are those they hear: as long as a
session hears nothing its request waits, and what it hears first is what it finds.
-/

namespace Storefront

/-- The kind of answer that is waited for in a stage. -/
def Stage.kind : Stage → Kind
  | .connect => .setup
  | .queryOffers => .skuDetails
  | .launchPurchase => .launch

/-- What a callback answers, its records unread. -/
def Callback.reply : Callback → Billing.Reply
  | setupFinished result => ⟨result, none⟩
  | skuDetails reply => reply
  | launched result => ⟨result, none⟩
  | disconnected => ⟨⟨.serviceDisconnected, "billing service disconnected"⟩, none⟩

/-- Whether a session that does this no longer waits for the answer to what it asked before. -/
def Action.leaves : Action → Bool
  | .ask _ | .endSession => true
  | _ => false

/-- No answer. -/
def Cue.silence : Cue := { wait := .never }

/-- What a session that asked for a kind of answer at `since` hears in a line of the journal:
the answer, that it was forgotten, or, once it left, that there will be none. -/
def Entry.hears? (session : Nat) (kind : Kind) (since : Nat) (entry : Entry Recorded) :
    Option Cue :=
  match entry.scene, entry.happening with
  | some scene, .did action =>
      if scene.session = session ∧ action.leaves = true then some .silence else none
  | none, .showed (.calledBack handle callback _) =>
      if handle = session ∧ callback.answers kind = true then
        some ⟨.after (entry.now - since), callback.reply⟩
      else none
  | none, .showed (.forgot handle) =>
      if handle = session then
        some ⟨.after (entry.now - since), ⟨⟨.error, "channel closed"⟩, none⟩⟩
      else none
  | _, _ => none

/-- What a session hears first in what was journaled after it asked. -/
def heardIn (session : Nat) (kind : Kind) (since : Nat) (journal : List (Entry Recorded)) : Cue :=
  (journal.findSome? (Entry.hears? session kind since)).getD .silence

/-- Whether a line of the journal is the question of a session at a stage. -/
def Entry.asks (session : Nat) (stage : Stage) (entry : Entry Recorded) : Bool :=
  match entry.scene, entry.happening with
  | some scene, .did (.ask question) => scene.session = session && question.stage = stage
  | _, _ => false

/-- How a stage of a session was answered, by a journal. -/
def observedCue (session : Nat) (journal : List (Entry Recorded)) (stage : Stage) : Cue :=
  match journal.dropWhile fun entry => !entry.asks session stage with
  | [] => .silence
  | question :: later => heardIn session stage.kind question.now later

/-- The script of what a session heard. -/
def observed (session : Nat) (journal : List (Entry Recorded)) : Script where
  setup := observedCue session journal .connect
  query := observedCue session journal .queryOffers
  launch := observedCue session journal .launchPurchase

theorem observed_cue (session : Nat) (journal : List (Entry Recorded)) (stage : Stage) :
    (observed session journal).cue stage = observedCue session journal stage := by
  cases stage <;> rfl

@[simp] theorem Question.stage_kind (question : Question) :
    question.stage.kind = question.kind := by
  cases question <;> rfl

@[simp] theorem Callback.reply_read (callback : Callback) :
    callback.reply.read.1 = callback.response.1 := by
  cases callback <;> rfl

@[simp] theorem Cue.silence_due (since : Nat) : Cue.silence.due since = none := rfl

@[simp] theorem Entry.hears?_did (session : Nat) (kind : Kind) (since now : Nat) (scene : Scene)
    (action : Action) :
    (⟨now, some scene, .did action⟩ : Entry Recorded).hears? session kind since =
      if scene.session = session ∧ action.leaves = true then some .silence else none := rfl

/-- What a call's own world shows is nothing to hear. -/
@[simp] theorem Entry.hears?_showed (session : Nat) (kind : Kind) (since now : Nat) (scene : Scene)
    (event : Recorded) :
    (⟨now, some scene, .showed event⟩ : Entry Recorded).hears? session kind since = none := by
  rfl

/-- The first question of a session at a stage is the one that counts. -/
theorem observedCue_eq {session : Nat} {stage : Stage} {before later : List (Entry Recorded)}
    {question : Entry Recorded} (first : ∀ entry ∈ before, entry.asks session stage = false)
    (asks : question.asks session stage = true) :
    observedCue session (before ++ question :: later) stage =
      heardIn session stage.kind question.now later := by
  unfold observedCue
  rw [List.dropWhile_append_of_pos (by simpa using first),
    List.dropWhile_cons_of_neg (by simp [asks])]

theorem heardIn_heard {session : Nat} {kind : Kind} {since : Nat} {cue : Cue}
    {journal : List (Entry Recorded)}
    (heard : journal.findSome? (Entry.hears? session kind since) = some cue)
    (later : List (Entry Recorded)) : heardIn session kind since (journal ++ later) = cue := by
  simp [heardIn, List.findSome?_append, heard]

theorem heardIn_unheard {session : Nat} {kind : Kind} {since : Nat}
    {journal : List (Entry Recorded)}
    (unheard : journal.findSome? (Entry.hears? session kind since) = none)
    (later : List (Entry Recorded)) :
    heardIn session kind since (journal ++ later) = heardIn session kind since later := by
  simp [heardIn, List.findSome?_append, unheard]

/-- What one finds in a mailbox whose request was closed. -/
def Mailbox.told (closed : Billing.Response) : Mailbox → Billing.Response
  | holding response => response
  | _ => closed

namespace Switchboard

variable {board : Switchboard}

/-- A request is the last that was made under its handle. -/
structure Latest (board : Switchboard) (slot : Nat) (request : Request) : Prop where
  found : board.requests[slot]? = some request
  last : board.QuietFrom request.handle (slot + 1)

theorem Latest.latest? {slot : Nat} {request : Request} (latest : board.Latest slot request) :
    board.latest? request.handle = some slot := by
  have inside := (List.getElem?_eq_some_iff.mp latest.found).1
  refine List.find?_eq_some_iff_getElem.mpr ⟨by simp [latest.found],
    board.requests.length - 1 - slot, by simp; omega, by simp; omega, fun later before => ?_⟩
  have past : slot + 1 ≤ board.requests.length - 1 - later := by omega
  have quiet := latest.last (board.requests.length - 1 - later)
  cases found : board.requests[board.requests.length - 1 - later]? with
  | none => simp [found]
  | some other => simp [found, quiet other past found]

/-- Whoever asked and was not answered finds nothing, and leaves everything as it is. -/
theorem answer_waiting {slot session : Nat} {kind : Kind}
    (latest : board.Latest slot ⟨session, kind, true, .empty⟩) (closed : Billing.Response) :
    board.answer session closed = (none, board) := by
  have last : board.latest? session = some slot := latest.latest?
  have same : board.requests.set slot ⟨session, kind, true, .empty⟩ = board.requests := by
    obtain ⟨inside, found⟩ := List.getElem?_eq_some_iff.mp latest.found
    rw [← found, List.set_getElem_self]
  simp [answer, last, collect, latest.found, Request.collect, same]

/-- Whoever was answered finds the answer. -/
theorem answer_closed {slot session : Nat} {kind : Kind} {mailbox : Mailbox}
    (latest : board.Latest slot ⟨session, kind, false, mailbox⟩) (closed : Billing.Response) :
    (board.answer session closed).1 = some (mailbox.told closed) := by
  have last : board.latest? session = some slot := latest.latest?
  cases mailbox <;> simp [answer, last, collect, latest.found, Request.collect, Mailbox.told]

/-- Whoever finds nothing leaves everything as it is. -/
theorem answer_none {session : Nat} {closed : Billing.Response}
    (nothing : (board.answer session closed).1 = none) :
    (board.answer session closed).2 = board := by
  unfold answer at nothing ⊢
  cases last : board.latest? session with
  | none => rfl
  | some slot =>
      simp only [last, collect] at nothing ⊢
      cases found : board.requests[slot]? with
      | none => simp [found] at nothing
      | some request =>
          have same : board.requests.set slot request = board.requests := by
            obtain ⟨inside, found⟩ := List.getElem?_eq_some_iff.mp found
            rw [← found, List.set_getElem_self]
          simp only [found] at nothing ⊢
          cases mailbox : request.mailbox <;> simp_all [Request.collect]
          split at nothing <;> simp_all

/-- Looking for an answer is a look into one's own mailbox, if one ever asked. -/
theorem answer_board (session : Nat) (closed : Billing.Response) :
    (board.answer session closed).2 = board ∨
      ∃ (slot : Nat) (request : Request), board.requests[slot]? = some request ∧
        request.handle = session ∧
        (board.answer session closed).2 = board.perform (.poll slot) := by
  unfold answer
  cases last : board.latest? session with
  | none => exact .inl rfl
  | some slot =>
      have own := List.find?_some last
      obtain ⟨request, found, handled⟩ := (Option.any_eq_true _ _).mp own
      refine .inr ⟨slot, request, found, by simpa using handled, ?_⟩
      simp only
      split <;> rfl

end Switchboard

@[simp] theorem Request.follow_handle (slot : Nat) (request : Request) (operation : Operation) :
    (request.follow slot operation).handle = request.handle := by
  cases operation with
  | expect | forget | callback =>
      simp only [Request.follow]
      split <;> rfl
  | poll other =>
      simp only [Request.follow]
      split
      · cases mailbox : request.mailbox <;> simp [Request.collect, mailbox]
      · rfl
  | drop other =>
      simp only [Request.follow]
      split <;> rfl

/-- Until its handle asks again, the last request under it is the one it was. -/
theorem Switchboard.Latest.perform {board : Switchboard} {slot : Nat} {request : Request}
    (latest : board.Latest slot request) (orderly : board.Orderly) {operation : Operation}
    (unasked : ∀ kind, operation ≠ .expect request.handle kind) :
    (board.perform operation).Latest slot (request.follow slot operation) where
  found := perform_follows orderly latest.found operation
  last := by
    rw [Request.follow_handle]
    exact latest.last.perform unasked

/-- Who asks makes the last request under the handle. -/
theorem Switchboard.latest_expect (board : Switchboard) (handle : Handle) (kind : Kind) :
    (board.expect handle kind).Latest board.requests.length ⟨handle, kind, true, .empty⟩ where
  found := by simp [expect, forget, modifyWaiting]
  last := by
    intro slot other late found
    have inside := (List.getElem?_eq_some_iff.mp found).1
    simp [expect, forget, modifyWaiting] at inside
    omega

/-- What a signal does to the switchboard. -/
def Signal.operation : Signal → Operation
  | .callback handle arrived => .callback handle arrived
  | .forget handle => .forget handle

theorem routed_receive (quiet : Bool) (signal : Signal) (board : Switchboard) :
    ((routed quiet).receive signal board).2 = board.perform signal.operation := by
  cases signal <;> rfl

theorem Signal.operation_ne_expect (signal : Signal) (handle : Handle) (kind : Kind) :
    signal.operation ≠ .expect handle kind := by
  cases signal <;> simp [operation]

/-- A signal changes nothing about a request that is closed. -/
theorem Signal.follow_closed (signal : Signal) (slot : Nat) (handle : Handle) (kind : Kind)
    (mailbox : Mailbox) :
    Request.follow slot ⟨handle, kind, false, mailbox⟩ signal.operation =
      ⟨handle, kind, false, mailbox⟩ := by
  cases signal <;> simp [operation, Request.follow]

/-- A callback is heard where it arrives, not in the log lines about it. -/
theorem routed_callback_hears (quiet : Bool) (handle : Handle) (arrived : Callback)
    (board : Switchboard) (session : Nat) (kind : Kind) (since now : Nat) :
    (((routed quiet).receive (.callback handle arrived) board).1.map fun event =>
        (⟨now, none, .showed event⟩ : Entry Recorded)).findSome?
          (Entry.hears? session kind since) =
      if handle = session ∧ arrived.answers kind = true then
        some ⟨.after (now - since), arrived.reply⟩
      else none := by
  have shown : ((routed quiet).receive (.callback handle arrived) board).1 =
      (board.route handle arrived).2.1.map Recorded.log ++
        [.calledBack handle arrived (board.route handle arrived).1] := rfl
  have unsaid : ((board.route handle arrived).2.1.map Recorded.log).findSome?
      (fun event => (⟨now, none, .showed event⟩ : Entry Recorded).hears? session kind since) =
        none := by
    simp [List.findSome?_eq_none_iff, Entry.hears?]
  rw [shown, List.findSome?_map, List.findSome?_append]
  simp only [Function.comp_def, unsaid, Option.none_or, List.findSome?_cons, List.findSome?_nil]
  by_cases reaches : handle = session ∧ arrived.answers kind = true <;>
    simp [Entry.hears?, reaches]

/-- What a session hears of a signal is what the signal does to its request. -/
theorem Signal.heard (quiet : Bool) (signal : Signal) (board : Switchboard) (session : Nat)
    (kind : Kind) {since now : Nat} (begun : since ≤ now) :
    (((((routed quiet).receive signal board).1.map fun event =>
          (⟨now, none, .showed event⟩ : Entry Recorded)).findSome?
            (Entry.hears? session kind since) = none) ∧
        ∀ slot, Request.follow slot ⟨session, kind, true, .empty⟩ signal.operation =
          ⟨session, kind, true, .empty⟩) ∨
      ∃ cue mailbox,
        ((((routed quiet).receive signal board).1.map fun event =>
          (⟨now, none, .showed event⟩ : Entry Recorded)).findSome?
            (Entry.hears? session kind since) = some cue) ∧
        cue.due since = some now ∧ mailbox.told channelClosed = cue.reply.read.1 ∧
        ∀ slot, Request.follow slot ⟨session, kind, true, .empty⟩ signal.operation =
          ⟨session, kind, false, mailbox⟩ := by
  cases signal with
  | callback handle arrived =>
      rw [routed_callback_hears]
      by_cases reaches : handle = session ∧ arrived.answers kind = true
      · obtain ⟨rfl, answers⟩ := reaches
        refine .inr ⟨⟨.after (now - since), arrived.reply⟩, .holding arrived.response.1, ?_, ?_, ?_,
          ?_⟩
        · simp [answers]
        · simp [Cue.due, begun]
        · simp [Mailbox.told]
        · simp [Request.follow, Signal.operation, answers, Request.answer]
      · refine .inl ⟨if_neg reaches, ?_⟩
        have spared : ¬ ((session : Handle) = handle ∧ arrived.answers kind = true) :=
          fun same => reaches ⟨same.1.symm, same.2⟩
        simp [Request.follow, Signal.operation, spared]
  | forget handle =>
      by_cases reaches : handle = session
      · refine .inr ⟨⟨.after (now - since), ⟨⟨.error, "channel closed"⟩, none⟩⟩, .empty, ?_, ?_, ?_,
          ?_⟩
        · simp [routed, Entry.hears?, reaches]
        · simp [Cue.due, begun]
        · rfl
        · simp [Request.follow, Signal.operation, reaches, Request.close]
      · refine .inl ⟨?_, ?_⟩
        · simp [routed, Entry.hears?, reaches]
        · simp [Request.follow, Signal.operation, Ne.symm reaches]

end Storefront
