import Storefront.Json.Record

/-!
# Whole texts

A document is one value with nothing but blanks around it.
-/

namespace Storefront.Json

/-- Reads one value and demands that nothing but blanks follows. -/
def readWhole {α : Type} (read : Reader α) (text : List Char) : Except Fault α := do
  let (value, left) <- read text
  match skipBlanks left with
  | [] => .ok value
  | left => refuseNext .trailingCharacters left

/-- Reads a document; a refusal says where. -/
def readDocument {α : Type} (read : Reader α) (text : String) : Except Refusal α :=
  (readWhole read text.toList).mapError (Fault.locate text.toList)

end Storefront.Json
