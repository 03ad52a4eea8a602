import Storefront.Json.Skip

/-!
# Single values and lists

Readers of the values that records are made of. A value of another type is named in
the refusal, together with what was expected in its place.
-/

namespace Storefront.Json

/-- Refuses a value that is not of the expected type. Simple values are read first, and
named; of a list or an object only the bracket is looked at. -/
def refuseType {α : Type} (expected : String) (left : List Char) : Except Fault α :=
  match left with
  | [] => refuse .unfinishedValue []
  | c :: rest => do
      let (found, rest) : Found × List Char <-
        if c = 'n' then (demandWord ['u', 'l', 'l'] rest).map (Found.null, ·)
        else if c = 't' then (demandWord ['r', 'u', 'e'] rest).map (Found.boolean true, ·)
        else if c = 'f' then (demandWord ['a', 'l', 's', 'e'] rest).map (Found.boolean false, ·)
        else if c = '"' then (readText rest).map fun (text, rest) => (Found.text text, rest)
        else if c = '-' || c.isDigit then
          (readNumber left).map fun (number, rest) => (number.found, rest)
        else if c = '[' then .ok (.sequence, left)
        else if c = '\x7b' then .ok (.map, left)
        else refuseNext .valueExpected left
      refuse (.wrongType found expected) rest

/-- Reads a boolean. -/
def readBool : Reader Bool := fun left =>
  match skipBlanks left with
  | 't' :: rest => (demandWord ['r', 'u', 'e'] rest).map (true, ·)
  | 'f' :: rest => (demandWord ['a', 'l', 's', 'e'] rest).map (false, ·)
  | left => refuseType "a boolean" left

/-- Reads a text. -/
def readString : Reader String := fun left =>
  match skipBlanks left with
  | '"' :: rest => readText rest
  | left => refuseType "a string" left

/-- The least and largest values of sixty-four signed bits. -/
def minSigned : Int := -Int.pow 2 63

def maxSigned : Int := Int.pow 2 63 - 1

/-- Reads a whole number of sixty-four signed bits. -/
def readInteger : Reader Int := fun left =>
  match skipBlanks left with
  | [] => refuse .unfinishedValue []
  | c :: rest =>
      if c = '-' || c.isDigit then do
        let (number, rest) <- readNumber (c :: rest)
        match number with
        | .whole value =>
            if minSigned ≤ value && value ≤ maxSigned then .ok (value, rest)
            else refuse (.wrongValue number.found "i64") rest
        | .floating _ => refuse (.wrongType number.found "i64") rest
      else refuseType "i64" (c :: rest)

/-- Whether a list has another element. `first` says that none was read yet. What is
left begins with the element, or with the bracket that ends the list. -/
def nextElement (first : Bool) (left : List Char) : Except Fault (Bool × List Char) :=
  match skipBlanks left with
  | [] => refuse (.unfinished .list) []
  | c :: rest =>
      if c = ']' then .ok (false, c :: rest)
      else if first then .ok (true, c :: rest)
      else if c = ',' then
        match skipBlanks rest with
        | [] => refuse .unfinishedValue []
        | next :: behind =>
            if next = ']' then refuseNext .trailingComma (next :: behind)
            else .ok (true, next :: behind)
      else refuseNext (.moreExpected .list) (c :: rest)

/-- Demands the end of a list of which every element wanted was read. -/
def endList (left : List Char) : Except Fault (List Char) :=
  match skipBlanks left with
  | [] => refuse (.unfinished .list) []
  | c :: rest =>
      if c = ']' then .ok rest
      else if c = ',' then
        match skipBlanks rest with
        | ']' :: behind => refuseNext .trailingComma (']' :: behind)
        | behind => refuseNext .trailingCharacters behind
      else refuseNext .trailingCharacters (c :: rest)

/-- Reads the elements of a list, behind its bracket; `seen` are those read so far,
last first. -/
def readElements {α : Type} (read : Reader α) : Nat -> List α -> Reader (List α)
  | 0, _, left => refuse .unfinishedValue left
  | fuel + 1, seen, left => do
      let (more, left) <- nextElement seen.isEmpty left
      if more then
        let (element, left) <- read left
        readElements read fuel (element :: seen) left
      else
        let left <- endList left
        .ok (seen.reverse, left)

/-- Reads a list. -/
def readList {α : Type} (read : Reader α) : Reader (List α) := fun left =>
  match skipBlanks left with
  | '[' :: rest => readElements read (rest.length + 1) [] rest
  | left => refuseType "a sequence" left

end Storefront.Json
