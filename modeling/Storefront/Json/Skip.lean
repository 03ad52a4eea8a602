import Storefront.Json.Numeral
import Storefront.Json.Text

/-!
# Passing over values

The value of a member nobody asked for is checked for its form alone and to any
depth, with the brackets it is inside of kept on a stack.
-/

namespace Storefront.Json

/-- The bracket that ends a frame. -/
def Frame.closer : Frame -> Char
  | list => ']'
  | object => '\x7d'

/-- Demands the characters of a word, behind its first one. -/
def demandWord : List Char -> List Char -> Except Fault (List Char)
  | [], left => .ok left
  | _ :: _, [] => refuse .unfinishedValue []
  | wanted :: word, c :: rest =>
      if c = wanted then demandWord word rest else refuseNext .wordExpected (c :: rest)

/-- Demands the colon between a key and its value. -/
def demandColon (left : List Char) : Except Fault (List Char) :=
  match skipBlanks left with
  | [] => refuse (.unfinished .object) []
  | c :: rest => if c = ':' then .ok rest else refuseNext .colonExpected (c :: rest)

/-- Passes over what comes before a value inside a frame: nothing in a list, a key and
a colon in an object. -/
def Frame.skipLabel : Frame -> List Char -> Except Fault (List Char)
  | list, left => .ok left
  | object, left =>
      match skipBlanks left with
      | [] => refuse (.unfinished .object) []
      | c :: rest =>
          if c = '"' then do
            let rest <- skipText rest
            demandColon rest
          else refuseNext .keyExpected (c :: rest)

/-- What the reader of a nested value does next. -/
inductive SkipStep where
  /-- A value has to come. -/
  | value
  /-- The innermost frame goes on or ends; `afterValue` if a comma may come. -/
  | continue (afterValue : Bool)
deriving DecidableEq, Repr

/-- Passes over a value and what ends the frames it is in, innermost first. -/
def skipNested : Nat -> SkipStep -> List Frame -> List Char -> Except Fault (List Char)
  | 0, _, _, left => refuse .unfinishedValue left
  | _ + 1, .continue _, [], left => .ok left
  | fuel + 1, .continue afterValue, frame :: outer, left =>
      match skipBlanks left with
      | [] => refuse (.unfinished frame) []
      | c :: rest =>
          if afterValue && c = ',' then do
            let rest <- frame.skipLabel rest
            skipNested fuel .value (frame :: outer) rest
          else if c = frame.closer then skipNested fuel (.continue true) outer rest
          else if afterValue then refuseNext (.moreExpected frame) (c :: rest)
          else do
            let rest <- frame.skipLabel (c :: rest)
            skipNested fuel .value (frame :: outer) rest
  | fuel + 1, .value, frames, left =>
      match skipBlanks left with
      | [] => refuse .unfinishedValue []
      | c :: rest =>
          if c = '[' then skipNested fuel (.continue false) (.list :: frames) rest
          else if c = '\x7b' then skipNested fuel (.continue false) (.object :: frames) rest
          else do
            let rest <-
              if c = 'n' then demandWord ['u', 'l', 'l'] rest
              else if c = 't' then demandWord ['r', 'u', 'e'] rest
              else if c = 'f' then demandWord ['a', 'l', 's', 'e'] rest
              else if c = '"' then skipText rest
              else if c = '-' || c.isDigit then skipNumber (c :: rest)
              else refuseNext .valueExpected (c :: rest)
            skipNested fuel (.continue true) frames rest

/-- Passes over one value. Each step but the first and last of a frame takes a
character, so twice as many steps as characters suffice. -/
def skipValue (left : List Char) : Except Fault (List Char) :=
  skipNested (2 * left.length + 2) .value [] left

end Storefront.Json
