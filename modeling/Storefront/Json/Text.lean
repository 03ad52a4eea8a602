import Storefront.Json.Fault
import Storefront.Text.Units

/-!
# Quoted texts

A quoted text is read up to its closing quote. Escapes are resolved, and the
surrogates they spell must pair. A text that is passed over is held to less: its
escapes must be well formed, but what they spell does not matter.
-/

namespace Storefront.Json

open Storefront.Text (Units)

/-- The value of a hexadecimal digit. -/
def hexValue? (c : Char) : Option Nat :=
  if '0' ≤ c && c ≤ '9' then some (c.toNat - '0'.toNat)
  else if 'a' ≤ c && c ≤ 'f' then some (c.toNat - 'a'.toNat + 10)
  else if 'A' ≤ c && c ≤ 'F' then some (c.toNat - 'A'.toNat + 10)
  else none

/-- The unit four hexadecimal digits spell. -/
def hexUnit? : List Char -> Option UInt16
  | [a, b, c, d] => do
      let a <- hexValue? a
      let b <- hexValue? b
      let c <- hexValue? c
      let d <- hexValue? d
      return (((a * 16 + b) * 16 + c) * 16 + d).toUInt16
  | _ => none

/-- The bytes a run of characters takes. -/
def byteCount (run : List Char) : Nat :=
  run.foldr (fun c bytes => c.utf8Size + bytes) 0

/-- Reads four hexadecimal digits. A text with less than four bytes left is refused
at its end, any other behind the four bytes that should have been digits. -/
def readHexUnit : Reader UInt16 := fun left =>
  match hexUnit? (left.take 4) with
  | some unit => .ok (unit, left.drop 4)
  | none =>
      if byteCount (left.take 4) < 4 then refuse .unfinishedText []
      else .error ⟨.badEscape, left, 4⟩

/-- What the escapes of one character spell. -/
def escaped? (c : Char) : Option Char :=
  match c with
  | '"' => some '"'
  | '\\' => some '\\'
  | '/' => some '/'
  | 'b' => some '\x08'
  | 'f' => some '\x0c'
  | 'n' => some '\n'
  | 'r' => some '\r'
  | 't' => some '\t'
  | _ => none

/-- Demands one character of the second escape of a surrogate pair. -/
def demandEscape (wanted : Char) (left : List Char) : Except Fault (List Char) :=
  match left with
  | [] => refuse .unfinishedText []
  | c :: rest => if c = wanted then .ok rest else refuseNext .unfinishedEscape left

/-- Reads the character spelled by hexadecimal digits, behind their `u`. -/
def readHexEscape : Reader Char := fun left => do
  let (unit, left) <- readHexUnit left
  if Units.isTrail unit then refuse .loneSurrogate left
  else if Units.isLead unit then
    let left <- demandEscape '\\' left
    let left <- demandEscape 'u' left
    let (trail, left) <- readHexUnit left
    if Units.isTrail trail then .ok (Units.paired unit trail, left)
    else refuse .loneSurrogate left
  else .ok (Char.ofNat unit.toNat, left)

/-- Reads an escape, behind its backslash. -/
def readEscape : Reader Char := fun left =>
  match left with
  | [] => refuse .unfinishedText []
  | c :: rest =>
      match escaped? c with
      | some spelled => .ok (spelled, rest)
      | none => if c = 'u' then readHexEscape rest else refuseNext .badEscape left

/-- Reads a text with at most `fuel` characters and escapes; `seen` is what was read
of it so far, last first. -/
def readTextFrom : Nat -> List Char -> Reader String
  | 0, _, left => refuse .unfinishedText left
  | fuel + 1, seen, left =>
      match left with
      | [] => refuse .unfinishedText []
      | c :: rest =>
          if c = '"' then .ok (String.ofList seen.reverse, rest)
          else if c = '\\' then do
            let (spelled, rest) <- readEscape rest
            readTextFrom fuel (spelled :: seen) rest
          else if c < ' ' then refuse .controlCharacter rest
          else readTextFrom fuel (c :: seen) rest

/-- Reads a text, behind its opening quote. -/
def readText : Reader String := fun left =>
  readTextFrom (left.length + 1) [] left

/-- Passes over an escape, behind its backslash. -/
def skipEscape (left : List Char) : Except Fault (List Char) :=
  match left with
  | [] => refuse .unfinishedText []
  | c :: rest =>
      if (escaped? c).isSome then .ok rest
      else if c = 'u' then do
        let (_, rest) <- readHexUnit rest
        .ok rest
      else refuseNext .badEscape left

/-- Passes over a text with at most `fuel` characters and escapes. -/
def skipTextFrom : Nat -> List Char -> Except Fault (List Char)
  | 0, left => refuse .unfinishedText left
  | fuel + 1, left =>
      match left with
      | [] => refuse .unfinishedText []
      | c :: rest =>
          if c = '"' then .ok rest
          else if c = '\\' then do
            let rest <- skipEscape rest
            skipTextFrom fuel rest
          else if c < ' ' then refuse .controlCharacter left
          else skipTextFrom fuel rest

/-- Passes over a text, behind its opening quote. -/
def skipText (left : List Char) : Except Fault (List Char) :=
  skipTextFrom (left.length + 1) left

end Storefront.Json
