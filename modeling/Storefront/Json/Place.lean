/-!
# Places in a text

Lines count from one. Columns count the bytes since the last line break, so a
character outside ASCII moves the place by more than one.
-/

namespace Storefront.Json

/-- A line, and the bytes read of it. -/
structure Place where
  line : Nat
  column : Nat
deriving DecidableEq, Repr

namespace Place

/-- Where every text begins. -/
def start : Place := ⟨1, 0⟩

/-- The place after one character. -/
def after (place : Place) (c : Char) : Place :=
  if c = '\n' then ⟨place.line + 1, 0⟩ else ⟨place.line, place.column + c.utf8Size⟩

/-- The place after a run of characters. -/
def afterAll (place : Place) (run : List Char) : Place :=
  run.foldl after place

/-- The place `count` bytes into what follows, which may fall inside a character. -/
def afterBytes (place : Place) (count : Nat) : List Char -> Place
  | [] => place
  | c :: rest =>
      if count < c.utf8Size then ⟨place.line, place.column + count⟩
      else (place.after c).afterBytes (count - c.utf8Size) rest

/-- The place in `text` at which `left` is what is left of it, and `bytes` further. -/
def within (text left : List Char) (bytes : Nat) : Place :=
  (start.afterAll (text.take (text.length - left.length))).afterBytes bytes left

end Place

end Storefront.Json
