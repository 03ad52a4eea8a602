import Storefront.Decimal.Shortest
import Storefront.Json.Place
import Storefront.Text.Quoted

/-!
# Why a text is refused

Readers work on what is left of a text and deal in causes. A `Fault` remembers what
was left when its cause was noticed; its place is worked out from that when it is
reported. Wordings stand in `Cause.message` alone.
-/

namespace Storefront.Json

/-- What stood in a text where something else was wanted. -/
inductive Found where
  | null
  | boolean (value : Bool)
  | integer (value : Int)
  /-- A number that is no 64-bit integer, by the bits of its double. -/
  | floating (bits : UInt64)
  | text (value : String)
  | sequence
  | map
deriving DecidableEq, Repr

/-- How a refusal names what it found. -/
def Found.describe : Found -> String
  | null => "null"
  | boolean value => "boolean `" ++ (if value then "true" else "false") ++ "`"
  | integer value => "integer `" ++ toString value ++ "`"
  | floating bits => "floating point `" ++ Decimal.shortest bits ++ "`"
  | text value => "string " ++ Text.quoted value
  | sequence => "sequence"
  | map => "map"

/-- The two kinds of brackets a value can be inside of. -/
inductive Frame where
  | list
  | object
deriving DecidableEq, Repr

/-- Every way a text can fail to be the value a reader wants. -/
inductive Cause where
  | unfinished (frame : Frame)
  | unfinishedText
  | unfinishedValue
  | unfinishedEscape
  | colonExpected
  | moreExpected (frame : Frame)
  | wordExpected
  | valueExpected
  | keyExpected
  | badEscape
  | badNumber
  | outOfRange
  | controlCharacter
  | loneSurrogate
  | trailingComma
  | trailingCharacters
  | wrongType (found : Found) (expected : String)
  | wrongValue (found : Found) (expected : String)
  | wrongLength (length : Nat) (expected : String)
  | missingMember (key : String)
  | repeatedMember (key : String)
deriving DecidableEq, Repr

/-- The wording of each cause. -/
def Cause.message : Cause -> String
  | unfinished .list => "EOF while parsing a list"
  | unfinished .object => "EOF while parsing an object"
  | unfinishedText => "EOF while parsing a string"
  | unfinishedValue => "EOF while parsing a value"
  | unfinishedEscape => "unexpected end of hex escape"
  | colonExpected => "expected `:`"
  | moreExpected .list => "expected `,` or `]`"
  | moreExpected .object => "expected `,` or `\x7d`"
  | wordExpected => "expected ident"
  | valueExpected => "expected value"
  | keyExpected => "key must be a string"
  | badEscape => "invalid escape"
  | badNumber => "invalid number"
  | outOfRange => "number out of range"
  | controlCharacter => "control character (\\u0000-\\u001F) found while parsing a string"
  | loneSurrogate => "lone leading surrogate in hex escape"
  | trailingComma => "trailing comma"
  | trailingCharacters => "trailing characters"
  | wrongType found expected => "invalid type: " ++ found.describe ++ ", expected " ++ expected
  | wrongValue found expected => "invalid value: " ++ found.describe ++ ", expected " ++ expected
  | wrongLength length expected => "invalid length " ++ toString length ++ ", expected " ++ expected
  | missingMember key => "missing field `" ++ key ++ "`"
  | repeatedMember key => "duplicate field `" ++ key ++ "`"

/-- A cause, what was left of the text when it was noticed, and how many bytes
further the refusal points. -/
structure Fault where
  cause : Cause
  left : List Char
  bytes : Nat
deriving DecidableEq, Repr

/-- A cause and the place it is reported at. -/
structure Refusal where
  cause : Cause
  place : Place
deriving DecidableEq, Repr

/-- Finds the place of a fault in the text that was read. -/
def Fault.locate (text : List Char) (fault : Fault) : Refusal :=
  ⟨fault.cause, Place.within text fault.left fault.bytes⟩

/-- The refusal as a user reads it. -/
def Refusal.message (refusal : Refusal) : String :=
  refusal.cause.message ++ " at line " ++ toString refusal.place.line ++
    " column " ++ toString refusal.place.column

/-- Reads one thing off the front of what is left of a text. -/
abbrev Reader (α : Type) := List Char -> Except Fault (α × List Char)

/-- Refuses at the front of what is left. -/
def refuse {α : Type} (cause : Cause) (left : List Char) : Except Fault α :=
  .error ⟨cause, left, 0⟩

/-- Refuses what comes next, pointing one byte into it. -/
def refuseNext {α : Type} (cause : Cause) (left : List Char) : Except Fault α :=
  .error ⟨cause, left, 1⟩

/-- The characters that may stand between any two parts of a value. -/
def isBlank (c : Char) : Bool :=
  c = ' ' || c = '\n' || c = '\t' || c = '\r'

/-- What is left behind any blanks. -/
def skipBlanks (left : List Char) : List Char :=
  left.dropWhile isBlank

end Storefront.Json
