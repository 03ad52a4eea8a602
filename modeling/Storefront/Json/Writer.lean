/-!
# Writing values

Values are written without blanks. Quotes, backslashes and control characters are
escaped, with a short escape where there is one; every other character stands for
itself.
-/

namespace Storefront.Json

/-- A hexadecimal digit. -/
def hexDigit (value : Nat) : Char :=
  Nat.digitChar value

/-- One character of a text. -/
def writeChar (c : Char) : List Char :=
  if c = '"' then ['\\', '"']
  else if c = '\\' then ['\\', '\\']
  else if c = '\x08' then ['\\', 'b']
  else if c = '\x0c' then ['\\', 'f']
  else if c = '\n' then ['\\', 'n']
  else if c = '\r' then ['\\', 'r']
  else if c = '\t' then ['\\', 't']
  else if c < ' ' then
    ['\\', 'u', '0', '0', hexDigit (c.toNat / 16), hexDigit (c.toNat % 16)]
  else [c]

/-- A text. -/
def writeText (text : String) : List Char :=
  '"' :: text.toList.flatMap writeChar ++ ['"']

/-- A boolean. -/
def writeBool (value : Bool) : List Char :=
  if value then ['t', 'r', 'u', 'e'] else ['f', 'a', 'l', 's', 'e']

/-- A whole number. -/
def writeInteger (value : Int) : List Char :=
  if value < 0 then '-' :: Nat.toDigits 10 value.natAbs else Nat.toDigits 10 value.natAbs

/-- A key with its value. -/
def writeMember (key : String) (value : List Char) : List Char :=
  writeText key ++ ':' :: value

/-- Values one after the other, with commas between them. -/
def writeSeparated : List (List Char) -> List Char
  | [] => []
  | [value] => value
  | value :: values => value ++ ',' :: writeSeparated values

/-- A list of written values. -/
def writeList (values : List (List Char)) : List Char :=
  '[' :: writeSeparated values ++ [']']

/-- An object of written members. -/
def writeObject (members : List (List Char)) : List Char :=
  '\x7b' :: writeSeparated members ++ ['\x7d']

end Storefront.Json
