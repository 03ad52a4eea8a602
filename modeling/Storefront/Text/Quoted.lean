import Storefront.Text.Unprintable

/-!
# Quoted texts

A text as a log line shows it: between quotes, with quotes and backslashes
escaped and every character that has no shape of its own spelled out.
-/

namespace Storefront.Text

/-- The digits of a code point in lower-case hexadecimal. -/
def hexDigits (value : Nat) : List Char :=
  Nat.toDigits 16 value

/-- One character inside quotes. -/
def quotedChar (c : Char) : List Char :=
  if c = '\x00' then ['\\', '0']
  else if c = '\t' then ['\\', 't']
  else if c = '\r' then ['\\', 'r']
  else if c = '\n' then ['\\', 'n']
  else if c = '"' then ['\\', '"']
  else if c = '\\' then ['\\', '\\']
  else if isUnprintable c then
    ['\\', 'u', '\x7b'] ++ hexDigits c.toNat ++ ['\x7d']
  else [c]

/-- A text between quotes. -/
def quoted (text : String) : String :=
  String.ofList (['"'] ++ text.toList.flatMap quotedChar ++ ['"'])

/-- A list of texts, each quoted. -/
def quotedList (texts : List String) : String :=
  "[" ++ ", ".intercalate (texts.map quoted) ++ "]"

end Storefront.Text
