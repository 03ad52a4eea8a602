/-!
# Spans of time

Whole seconds and nanoseconds below one second. A span is shown in the largest of
four units of which it has at least one, with a fraction if it needs one.
-/

namespace Storefront

/-- A span of time. -/
structure Duration where
  seconds : Nat := 0
  nanoseconds : Nat := 0
deriving DecidableEq, Repr

namespace Duration

/-- The digits of `part`, written with leading zeros to `width` digits and without
trailing zeros. -/
def fractionDigits (width part : Nat) : List Char :=
  let digits := Nat.toDigits 10 part
  let padded := List.replicate (width - digits.length) '0' ++ digits
  (padded.reverse.dropWhile (· = '0')).reverse

/-- A count of units and a fraction of one unit, `part` out of `10 ^ width`. -/
def showUnits (whole width part : Nat) (unit : String) : String :=
  let digits := if part = 0 then [] else '.' :: fractionDigits width part
  toString whole ++ String.ofList digits ++ unit

/-- How a span is shown. -/
def display (span : Duration) : String :=
  if 0 < span.seconds then showUnits span.seconds 9 span.nanoseconds "s"
  else if 1000000 ≤ span.nanoseconds then
    showUnits (span.nanoseconds / 1000000) 6 (span.nanoseconds % 1000000) "ms"
  else if 1000 ≤ span.nanoseconds then
    showUnits (span.nanoseconds / 1000) 3 (span.nanoseconds % 1000) "µs"
  else showUnits span.nanoseconds 0 0 "ns"

/-- The whole milliseconds it takes for a span to have passed. -/
def wholeMilliseconds (span : Duration) : Nat :=
  span.seconds * 1000 + (span.nanoseconds + 999999) / 1000000

end Duration

end Storefront
