import Storefront.Json.Fault

/-!
# Numbers

A numeral is scanned into its digits first and valued after. Whole numbers that fit
64 bits keep their value. All others become doubles, whose nineteen or twenty leading
digits are exact; only refusals ever show one.
-/

namespace Storefront.Json

/-- The parts of a written number. -/
structure Numeral where
  negative : Bool
  whole : List Char
  fraction : Option (List Char)
  /-- Whether the exponent is negative, and its digits. -/
  exponent : Option (Bool × List Char)
deriving DecidableEq, Repr

/-- A number as a reader meets it. -/
inductive Number where
  | whole (value : Int)
  | floating (bits : UInt64)
deriving DecidableEq, Repr

/-- How a number is named in a refusal. -/
def Number.found : Number -> Found
  | whole value => .integer value
  | floating bits => .floating bits

/-- The value of a decimal digit. -/
def digitValue (digit : Char) : Nat :=
  digit.toNat - '0'.toNat

/-- The value of a run of decimal digits. -/
def digitsValue (digits : List Char) : Nat :=
  digits.foldl (fun value digit => value * 10 + digitValue digit) 0

/-- Splits off the decimal digits in front. -/
def takeDigits (left : List Char) : List Char × List Char :=
  (left.takeWhile Char.isDigit, left.dropWhile Char.isDigit)

/-- Scans the digits before the point. A zero stands alone. `atEnd` is the cause if
the text ends instead. -/
def scanWhole (atEnd : Cause) : Reader (List Char) := fun left =>
  match left with
  | [] => refuse atEnd []
  | c :: rest =>
      if c = '0' then
        match rest with
        | [] => .ok (['0'], [])
        | next :: _ =>
            if next.isDigit then refuseNext .badNumber rest else .ok (['0'], rest)
      else if c.isDigit then .ok (takeDigits left)
      else refuseNext .badNumber left

/-- Scans a point and the digits behind it, if a point comes next. -/
def scanFraction (atEnd : Cause) : Reader (Option (List Char)) := fun left =>
  match left with
  | '.' :: rest =>
      match takeDigits rest with
      | ([], []) => refuse atEnd []
      | ([], behind) => refuseNext .badNumber behind
      | (digits, behind) => .ok (some digits, behind)
  | _ => .ok (none, left)

/-- Splits off the sign of an exponent. -/
def takeSign (left : List Char) : Bool × List Char :=
  match left with
  | '+' :: rest => (false, rest)
  | '-' :: rest => (true, rest)
  | _ => (false, left)

/-- Scans an exponent, if one comes next. -/
def scanExponent (atEnd : Cause) : Reader (Option (Bool × List Char)) := fun left =>
  match left with
  | [] => .ok (none, [])
  | c :: rest =>
      if c = 'e' || c = 'E' then
        let (negative, rest) := takeSign rest
        match takeDigits rest with
        | ([], []) => refuse atEnd []
        | ([], behind) => refuseNext .badNumber behind
        | (digits, behind) => .ok (some (negative, digits), behind)
      else .ok (none, left)

/-- Scans a number. -/
def scanNumeral (atEnd : Cause) : Reader Numeral := fun left => do
  let (negative, left) :=
    match left with
    | '-' :: rest => (true, rest)
    | _ => (false, left)
  let (whole, left) <- scanWhole atEnd left
  let (fraction, left) <- scanFraction atEnd left
  let (exponent, left) <- scanExponent atEnd left
  .ok (⟨negative, whole, fraction, exponent⟩, left)

/-- The largest value of sixty-four unsigned bits. -/
def maxUnsigned : Nat := Nat.pow 2 64 - 1

/-- The least and largest values of an exponent. -/
def minExponent : Int := -Int.pow 2 31

def maxExponent : Int := Int.pow 2 31 - 1

/-- Appends digits to a significand as long as it fits sixty-four bits; gives the
significand and how many digits did not fit. -/
def absorb (significand : Nat) : List Char -> Nat × Nat
  | [] => (significand, 0)
  | digit :: rest =>
      let next := significand * 10 + digitValue digit
      if next ≤ maxUnsigned then absorb next rest else (significand, rest.length + 1)

/-- Scales a double by powers of ten until none is left; `none` if it grows too large.
A double of sixty-four bits is zero after three steps down. -/
def scaleFloat : Nat -> Float -> Int -> Option Float
  | 0, value, _ => some value
  | fuel + 1, value, exponent =>
      if exponent.natAbs ≤ 308 then
        let power := Float.ofScientific 1 false exponent.natAbs
        if 0 ≤ exponent then
          let scaled := value * power
          if scaled.isInf then none else some scaled
        else some (value / power)
      else if value == 0 then some value
      else if 0 ≤ exponent then none
      else scaleFloat fuel (value / Float.ofScientific 1 false 308) (exponent + 308)

/-- The bits of a double with its sign put on. -/
def signed (negative : Bool) (value : Float) : UInt64 :=
  (if negative then -value else value).toBits

/-- Keeps an exponent within its bounds. -/
def clampExponent (exponent : Int) : Int :=
  max minExponent (min maxExponent exponent)

namespace Numeral

/-- The exact value of a numeral that is all whole digits, with the zero that has a
sign left out. -/
def wholeValue? (numeral : Numeral) : Option Int :=
  match numeral.fraction, numeral.exponent with
  | none, none =>
      let magnitude := digitsValue numeral.whole
      if numeral.negative then
        if 0 < magnitude && magnitude ≤ Nat.pow 2 63 then some (-magnitude) else none
      else if magnitude ≤ maxUnsigned then some magnitude
      else none
  | _, _ => none

/-- The leading digits of a numeral and the power of ten they are to be scaled by,
its written exponent left out. -/
def significand (numeral : Numeral) : Nat × Int :=
  let (significand, dropped) := absorb 0 numeral.whole
  match numeral.fraction with
  | none => (significand, dropped)
  | some digits =>
      let (significand, ignored) := absorb significand digits
      (significand, dropped - (digits.length - ignored : Nat))

/-- How many digits of an exponent it takes to exceed every bound. -/
def excessDigits (digits : List Char) : Option Nat :=
  (List.range (digits.length + 1)).find? fun count =>
    maxExponent < digitsValue (digits.take count)

/-- The double nearest to what the leading digits say; `left` is what follows the
numeral. An exponent beyond every bound is noticed at the digit that exceeds it. -/
def float (numeral : Numeral) (left : List Char) : Except Fault UInt64 :=
  let (significand, scale) := numeral.significand
  let scaled := fun exponent =>
    match scaleFloat 4 significand.toUInt64.toFloat exponent with
    | some value => .ok (signed numeral.negative value)
    | none => refuse .outOfRange left
  match numeral.exponent with
  | none => scaled scale
  | some (down, digits) =>
      match excessDigits digits with
      | some count =>
          if significand = 0 || down then .ok (signed numeral.negative 0)
          else refuse .outOfRange (digits.drop count ++ left)
      | none =>
          let exponent : Int := digitsValue digits
          scaled (clampExponent (if down then scale - exponent else scale + exponent))

end Numeral

/-- Reads a number. -/
def readNumber : Reader Number := fun left => do
  let (numeral, left) <- scanNumeral .unfinishedValue left
  match numeral.wholeValue? with
  | some value => .ok (.whole value, left)
  | none =>
      let bits <- numeral.float left
      .ok (.floating bits, left)

/-- Passes over a number: its form matters, its value does not. -/
def skipNumber (left : List Char) : Except Fault (List Char) := do
  let (_, left) <- scanNumeral .badNumber left
  .ok left

end Storefront.Json
