/-!
# Doubles in as few digits as read back

A finite double is `significand * 2 ^ exponent`. The reals that round to it form
an interval around it, which contains its ends exactly when the significand is
even. The text of the double has the fewest digits that some decimal in this
interval has, and of those decimals is the one nearest to the double.
-/

namespace Storefront.Decimal

/-- `numerator * 2 ^ twos`, as a fraction of naturals. -/
structure Fraction where
  numerator : Nat
  denominator : Nat
deriving Repr

/-- `count * 2 ^ exponent`. -/
def Fraction.ofTwos (count : Nat) (exponent : Int) : Fraction :=
  ⟨count * Nat.pow 2 exponent.toNat, Nat.pow 2 (-exponent).toNat⟩

/-- Multiplies by `10 ^ exponent`. -/
def Fraction.timesTens (fraction : Fraction) (exponent : Int) : Fraction :=
  ⟨fraction.numerator * Nat.pow 10 exponent.toNat,
    fraction.denominator * Nat.pow 10 (-exponent).toNat⟩

/-- A double's sign, significand and exponent of two. -/
structure Parts where
  negative : Bool
  significand : Nat
  exponent : Int
  /-- The double below is half as far as the one above. -/
  narrowBelow : Bool
deriving Repr

/-- Takes apart the bits of a finite double. -/
def Parts.ofBits (bits : UInt64) : Parts :=
  let fraction : Nat := bits.toNat % Nat.pow 2 52
  let biased : Nat := bits.toNat / Nat.pow 2 52 % Nat.pow 2 11
  if biased = 0 then
    ⟨bits.toNat / Nat.pow 2 63 = 1, fraction, -1074, false⟩
  else
    ⟨bits.toNat / Nat.pow 2 63 = 1, Nat.pow 2 52 + fraction, (biased : Int) - 1075,
      fraction = 0 && 1 < biased⟩

/-- The interval of reals that round to a double, scaled by `10 ^ -scale`: the lower
end, the double itself and the upper end over one denominator. -/
structure Interval where
  low : Nat
  middle : Nat
  high : Nat
  denominator : Nat
  closed : Bool
deriving Repr

def Parts.interval (parts : Parts) (scale : Int) : Interval :=
  let quarter := fun count => (Fraction.ofTwos count (parts.exponent - 2)).timesTens (-scale)
  let middle := quarter (4 * parts.significand)
  ⟨(quarter (4 * parts.significand - if parts.narrowBelow then 1 else 2)).numerator,
    middle.numerator,
    (quarter (4 * parts.significand + 2)).numerator,
    middle.denominator,
    parts.significand % 2 = 0⟩

/-- Whether the whole number `count` lies in the interval. -/
def Interval.contains (interval : Interval) (count : Nat) : Bool :=
  let value := count * interval.denominator
  if interval.closed then interval.low ≤ value && value ≤ interval.high
  else interval.low < value && value < interval.high

/-- The whole number in the interval nearest to its middle, if it contains any.
Of two at the same distance the even one is taken. -/
def Interval.nearestWhole? (interval : Interval) : Option Nat :=
  let below := interval.middle / interval.denominator
  let above := below + 1
  let fromBelow := interval.middle - below * interval.denominator
  let fromAbove := above * interval.denominator - interval.middle
  match interval.contains below, interval.contains above with
  | false, false => none
  | true, false => some below
  | false, true => some above
  | true, true =>
      if fromBelow < fromAbove then some below
      else if fromAbove < fromBelow then some above
      else if below % 2 = 0 then some below
      else some above

/-- Looks through ever finer decimal grids, beginning at `10 ^ scale`. -/
def Parts.search (parts : Parts) : Nat -> Int -> Nat × Int
  | 0, scale => (0, scale)
  | fuel + 1, scale =>
      match (parts.interval scale).nearestWhole? with
      | some count => (count, scale)
      | none => parts.search fuel (scale - 1)

/-- The digits and the power of ten they are a multiple of. No double needs a grid
finer than `10 ^ -1100` or coarser than `10 ^ 310`. -/
def Parts.digits (parts : Parts) : List Char × Int :=
  let (count, scale) := parts.search 1411 310
  (Nat.toDigits 10 count, scale)

/-- How a float is laid out: in which decades without an exponent. -/
structure Layout where
  firstPlain : Int
  lastPlain : Int
deriving Repr

/-- Without an exponent from `0.00001` to below `10 ^ 16`. -/
def Layout.standard : Layout :=
  ⟨-5, 15⟩

/-- The exponent mark, always signed. -/
def exponentText (exponent : Int) : List Char :=
  ['e', if exponent < 0 then '-' else '+'] ++ Nat.toDigits 10 exponent.natAbs

/-- Lays out digits that are a multiple of `10 ^ scale`. -/
def Layout.write (layout : Layout) (digits : List Char) (scale : Int) : List Char :=
  let decade := (digits.length : Int) + scale - 1
  if layout.firstPlain ≤ decade && decade ≤ layout.lastPlain then
    if 0 ≤ scale then
      digits ++ List.replicate scale.toNat '0' ++ ['.', '0']
    else if 0 ≤ decade then
      digits.take (decade.toNat + 1) ++ ['.'] ++ digits.drop (decade.toNat + 1)
    else
      ['0', '.'] ++ List.replicate ((-decade).toNat - 1) '0' ++ digits
  else
    match digits with
    | [] => []
    | [digit] => digit :: exponentText decade
    | digit :: others => digit :: '.' :: others ++ exponentText decade

/-- The text of a finite double. -/
def shortest (bits : UInt64) : String :=
  let parts := Parts.ofBits bits
  let sign := if parts.negative then ['-'] else []
  if parts.significand = 0 then String.ofList (sign ++ ['0', '.', '0'])
  else
    let (digits, scale) := parts.digits
    String.ofList (sign ++ Layout.standard.write digits scale)

end Storefront.Decimal
