import Storefront.Log
import Storefront.Text.Units

/-!
# The host machine

The machine that runs the app holds the objects native code works with. Native code
reaches it through a few kinds of use, each of which may fail, and every one of which
is counted. A class is loaded through the loader of the context the bridge was bound
to, and remembered from then on.
-/

namespace Storefront.Host

/-- A value that native code hands to the machine. -/
inductive Value where
  | text (text : String)
  | long (number : Int)
  | array (texts : List String)
  | object (name : String)
deriving DecidableEq, Repr

/-- Whose method is called. -/
inductive Target where
  | class (name : String)
  | object (name : String)
deriving DecidableEq, Repr

/-- An exception of the machine. -/
structure Raised where
  className : String
  message : String
deriving DecidableEq, Repr

/-- A method call on the machine. -/
structure Invocation where
  target : Target
  method : String
  signature : String
  arguments : List Value
deriving DecidableEq, Repr

/-- What the machine shows. -/
inductive Event where
  | called (invocation : Invocation)
  /-- Native code threw an exception. -/
  | threw (raised : Raised)
  /-- The pending exception was printed. -/
  | described (className : String)
  | cleared
  /-- A native method returned with this exception. -/
  | thrown (raised : Raised)
  | log (line : LogLine)
deriving DecidableEq, Repr

/-- Why a use failed. -/
inductive Trouble where
  /-- An exception is pending. -/
  | pending (raised : Raised)
  | errorCode
  | nullPointer (source : String)
  | cannotThrow
deriving DecidableEq, Repr

/-- How a failed use is worded. -/
def Trouble.message : Trouble -> String
  | pending _ => "Java exception was thrown"
  | errorCode => "JNI call failed"
  | nullPointer source => "Null pointer in " ++ source
  | cannotThrow => "Throw failed with error code -1"

/-- What native code does with the machine. -/
inductive Use where
  | attach
  | pushFrame
  /-- Asks which machine this is, as every lasting reference does. -/
  | findMachine
  | makeText
  | makeArray
  | setElement
  | readText
  | throwNew (raised : Raised)
  | call (invocation : Invocation)
deriving DecidableEq, Repr

namespace Use

/-- The name a use is counted under. -/
def name : Use -> String
  | attach => "AttachCurrentThread"
  | pushFrame => "PushLocalFrame"
  | findMachine => "GetJavaVM"
  | makeText => "NewStringUTF"
  | makeArray => "NewObjectArray"
  | setElement => "SetObjectArrayElement"
  | readText => "GetStringUTFChars"
  | throwNew _ => "ThrowNew"
  | call invocation => invocation.method

/-- How a use fails. Making and reading texts and arrays may fail `silently`. -/
def trouble (use : Use) (silently : Bool) : Trouble :=
  match use with
  | attach | pushFrame | findMachine => .errorCode
  | makeText | makeArray | readText =>
      if silently then .nullPointer (use.name ++ " result")
      else .pending ⟨"java.lang.OutOfMemoryError", use.name⟩
  | setElement => .pending ⟨"java.lang.ArrayStoreException", use.name⟩
  | throwNew _ => .cannotThrow
  | call _ => .pending ⟨"java.lang.RuntimeException", use.name⟩

/-- What a use shows. A method shows its call even if it then fails. -/
def shown (use : Use) (succeeded : Bool) : List Event :=
  match use with
  | call invocation => [.called invocation]
  | throwNew raised => if succeeded then [.threw raised] else []
  | _ => []

end Use

/-- A use that is going to fail: the `nth` one of its name, or every one. -/
structure Fault where
  on : String
  nth : Option Nat := some 1
  silently : Bool := false
deriving DecidableEq, Repr

/-- The context a bridge was bound to, and the context's class loader. -/
structure Home where
  context : String
  loader : String
deriving DecidableEq, Repr

/-- The machine as the bridge knows it. -/
structure Machine where
  faults : List Fault := []
  /-- The names of all uses so far. -/
  uses : List String := []
  home : Option Home := none
  /-- The classes loaded and remembered. -/
  classes : List String := []
deriving DecidableEq, Repr

/-- What became of a use: what the machine showed, and the machine after it. -/
structure Done where
  trouble : Option Trouble
  events : List Event
  machine : Machine
deriving DecidableEq, Repr

/-- One step of a longer request: a use, or a class that has to be at hand. -/
inductive Step where
  | use (use : Use)
  | needClass (name : String)
deriving DecidableEq, Repr

namespace Machine

/-- The fault that a use meets, if any. -/
def faultOf? (machine : Machine) (name : String) : Option Fault :=
  machine.faults.find? fun fault =>
    fault.on = name && fault.nth.all (· = machine.uses.count name)

/-- Uses the machine once. -/
def perform (machine : Machine) (use : Use) : Done :=
  let counted := { machine with uses := machine.uses ++ [use.name] }
  match counted.faultOf? use.name with
  | none => ⟨none, use.shown true, counted⟩
  | some fault => ⟨some (use.trouble fault.silently), use.shown false, counted⟩

/-- Uses the machine until a use fails. -/
def performAll (machine : Machine) : List Use -> Done
  | [] => ⟨none, [], machine⟩
  | use :: uses =>
      let done := machine.perform use
      match done.trouble with
      | some _ => done
      | none =>
          let rest := done.machine.performAll uses
          { rest with events := done.events ++ rest.events }

/-- What it takes to load a class and keep a reference to it. -/
def loading (home : Home) (name : String) : List Use := [
  .makeText,
  .call ⟨.object home.loader, "loadClass", "(Ljava/lang/String;)Ljava/lang/Class;",
    [.text name]⟩,
  .findMachine]

/-- Takes one step. A class that was loaded is remembered. -/
def take (machine : Machine) (home : Home) : Step -> Done
  | .use use => machine.perform use
  | .needClass name =>
      if machine.classes.contains name then ⟨none, [], machine⟩
      else
        let done := machine.performAll (loading home name)
        match done.trouble with
        | some _ => done
        | none =>
            { done with machine := { done.machine with
                classes := done.machine.classes ++ [name] } }

/-- Takes steps until one fails. -/
def takeAll (machine : Machine) (home : Home) : List Step -> Done
  | [] => ⟨none, [], machine⟩
  | step :: steps =>
      let done := machine.take home step
      match done.trouble with
      | some _ => done
      | none =>
          let rest := done.machine.takeAll home steps
          { rest with events := done.events ++ rest.events }

/-- What is shown about a request that failed. An exception is printed and cleared,
any other trouble is logged. -/
def settled : Option Trouble -> List Event
  | none => []
  | some (.pending raised) => [.described raised.className, .cleared]
  | some trouble => [.log ⟨.debug, "JNI call failed: " ++ trouble.message⟩]

/-- Makes a request from native code: on a thread that is attached for it if it is the
bridge's own, and in a frame. Tells whether it was issued; no exception outlives it. -/
def request (machine : Machine) (attaches : Bool) (steps : Home -> List Step) :
    Bool × List Event × Machine :=
  match machine.home with
  | none =>
      (false, [.log ⟨.error, "catalog-bridge was used before `android::init_with_env`"⟩],
        machine)
  | some home =>
      let entering := (if attaches then [Step.use .attach] else []) ++ [.use .pushFrame]
      let done := machine.takeAll home (entering ++ steps home)
      (done.trouble.isNone, done.events ++ settled done.trouble, done.machine)

/-- Binds the bridge to a context, unless it is bound. A context whose loader or whose
references cannot be had leaves the machine unbound. -/
def bind (machine : Machine) (home : Home) : Done :=
  match machine.home with
  | some _ => ⟨none, [], machine⟩
  | none =>
      let done := machine.performAll [
        .call ⟨.object home.context, "getClassLoader", "()Ljava/lang/ClassLoader;", []⟩,
        .findMachine, .findMachine, .findMachine]
      match done.trouble with
      | some _ => done
      | none => { done with machine := { done.machine with home := some home } }

end Machine

end Storefront.Host
