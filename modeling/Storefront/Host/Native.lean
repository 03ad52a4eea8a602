import Storefront.Host.Machine
import Storefront.Switchboard
import Storefront.Turn

/-!
# Native methods

What the app calls in native code: binding the bridge, looking up and purchasing, and
the four callbacks of the billing service. An exception may be pending when a native
method is called; then nothing can be read, and the exception is left as it is.
-/

namespace Storefront.Host

/-- An argument that should be a text. -/
inductive Argument where
  | null
  | text (units : Text.Units)
  /-- An object that is no text. -/
  | foreign
deriving DecidableEq, Repr

/-- A native method in progress: what it has shown, and the exception pending. -/
structure Progress where
  machine : Machine
  pending : Option Raised := none
  events : List Event := []
deriving DecidableEq, Repr

namespace Progress

/-- Shows more. -/
def note (progress : Progress) (events : List Event) : Progress :=
  { progress with events := progress.events ++ events }

/-- Logs a line. -/
def log (progress : Progress) (level : Level) (text : String) : Progress :=
  progress.note [.log ⟨level, text⟩]

/-- Takes over what came of using the machine. An exception stays pending. -/
def after (progress : Progress) (done : Done) : Progress :=
  { machine := done.machine
    pending :=
      match done.trouble with
      | some (.pending raised) => some raised
      | _ => progress.pending
    events := progress.events ++ done.events }

/-- Reads an argument as a text. -/
def read (progress : Progress) (argument : Argument) : Except Trouble String × Progress :=
  match progress.pending with
  | some raised => (.error (.pending raised), progress)
  | none =>
      match argument with
      | .null => (.error (.nullPointer "get_object_class"), progress)
      | .foreign => (.error .errorCode, progress)
      | .text units =>
          let done := progress.machine.perform .readText
          match done.trouble with
          | some trouble => (.error trouble, progress.after done)
          | none => (.ok units.decode, progress.after done)

/-- Reads a text that the billing service sent along. One that cannot be read is logged. -/
def readSent (progress : Progress) (argument : Argument) : Option String × Progress :=
  match argument with
  | .null => (none, progress)
  | _ =>
      match progress.read argument with
      | (.ok text, progress) => (some text, progress)
      | (.error trouble, progress) =>
          (none, progress.log .error
            ("failed to read string from BillingBridge: " ++ trouble.message))

/-- Throws an exception, unless one is pending. -/
def throw (progress : Progress) (raised : Raised) : Progress :=
  match progress.pending with
  | some _ => progress
  | none =>
      let done := progress.machine.perform (.throwNew raised)
      let progress := progress.after done
      match done.trouble with
      | some trouble =>
          progress.log .error
            ("failed to throw " ++ raised.className ++ ": " ++ trouble.message)
      | none => { progress with pending := some raised }

/-- Rejects a catalog, telling the app by an exception. -/
def reject (progress : Progress) (violation : Catalog.Violation) : Progress :=
  (progress.log .error ("rejecting catalog: " ++ violation.message)).throw
    ⟨"java/lang/IllegalArgumentException", violation.message⟩

/-- Reads a catalog argument, or rejects it. -/
def catalog (progress : Progress) (argument : Argument) :
    Option Catalog.Canonical × Progress :=
  let (text, progress) := progress.read argument
  match Catalog.Canonical.decodeArgument (text.mapError Trouble.message) with
  | .ok catalog => (some catalog, progress)
  | .error violation => (none, progress.reject violation)

/-- Binds the bridge. -/
def bind (progress : Progress) (home : Home) : Progress :=
  let failed := fun (progress : Progress) (trouble : Trouble) =>
    progress.log .error ("failed to initialize catalog-bridge: " ++ trouble.message)
  match progress.machine.home, progress.pending with
  | some _, _ => progress
  | none, some raised => failed progress (.pending raised)
  | none, none =>
      let done := progress.machine.bind home
      match done.trouble with
      | some trouble => failed (progress.after done) trouble
      | none => progress.after done

/-- Accepts or rejects a lookup. -/
def lookUp (progress : Progress) (argument : Argument) : Option Order × Progress :=
  match progress.catalog argument with
  | (some catalog, progress) =>
      (some ⟨.lookup, .catalog catalog, ""⟩,
        progress.log .debug ("looking up " ++ toString catalog.size ++ " product(s)"))
  | (none, progress) => (none, progress)

/-- Accepts or rejects a purchase. The activity it is shown on has to be kept. -/
def purchase (progress : Progress) (argument : Argument) (activity : String) :
    Option Order × Progress :=
  match progress.catalog argument with
  | (none, progress) => (none, progress)
  | (some catalog, progress) =>
      match catalog.single with
      | .error violation => (none, progress.reject violation)
      | .ok _ =>
          let done := progress.machine.perform .findMachine
          let progress := progress.after done
          match done.trouble with
          | some trouble =>
              (none, progress.log .error
                ("failed to keep a reference to the activity: " ++ trouble.message))
          | none => (some ⟨.purchase, .catalog catalog, activity⟩, progress)

end Progress

/-- What the billing service sends along with a callback. -/
inductive Sent where
  | setupFinished (code : Int) (message : Argument)
  | skuDetails (code : Int) (message json : Argument)
  | launched (code : Int) (message : Argument)
  | disconnected
deriving DecidableEq, Repr

namespace Progress

/-- Reads the result of a callback. A message that cannot be read is empty. -/
def result (progress : Progress) (code : Int) (message : Argument) :
    Billing.Result × Progress :=
  let (text, progress) := progress.readSent message
  (⟨.ofNumber code, text.getD ""⟩, progress)

/-- Reads the list of records of a callback. No list is different from one that cannot
be read, which is passed on as a text that is no list. -/
def records (progress : Progress) (json : Argument) : Option String × Progress :=
  match json with
  | .null => (none, progress)
  | _ =>
      let (text, progress) := progress.readSent json
      (some (text.getD ""), progress)

/-- Reads what came with a callback. -/
def callback (progress : Progress) : Sent -> Callback × Progress
  | .setupFinished code message =>
      let (result, progress) := progress.result code message
      (.setupFinished result, progress)
  | .skuDetails code message json =>
      let (result, progress) := progress.result code message
      let (json, progress) := progress.records json
      (.skuDetails ⟨result, json⟩, progress)
  | .launched code message =>
      let (result, progress) := progress.result code message
      (.launched result, progress)
  | .disconnected => (.disconnected, progress)

/-- Routes a callback to the session that waits for it. The service may report a lost
connection that nobody waits on. -/
def route (progress : Progress) (board : Switchboard) (handle : Handle) (sent : Sent) :
    Progress × Switchboard :=
  let (callback, progress) := progress.callback sent
  let (routed, lines, board) := board.route handle callback
  let progress := progress.note (lines.map .log)
  match callback, routed with
  | .disconnected, .finished =>
      (progress.log .info
        ("billing service disconnected for session " ++ toString handle), board)
  | _, _ => (progress, board)

end Progress

end Storefront.Host
