import Storefront.Json.Value

/-!
# Records

A record is described by its members, and one reader serves every record. It takes
an object, whose members come in any order and among members nobody asked for, or a
list of the members' values in the order of the description.
-/

namespace Storefront.Json

/-- One member of a record: the key it is written under and other keys it is read
under, how its value is read, and the value it has when it is absent, if it may be. -/
structure Member where
  Value : Type
  key : String
  aliases : List String
  read : Reader Value
  fallback : Option Value

/-- A member that has to be present. -/
def Member.required {α : Type} (key : String) (read : Reader α) : Member :=
  ⟨α, key, [], read, none⟩

/-- A member that may be absent. -/
def Member.optional {α : Type} (key : String) (read : Reader α) (fallback : α) : Member :=
  ⟨α, key, [], read, some fallback⟩

/-- Whether a key names the member. -/
def Member.answersTo (member : Member) (key : String) : Bool :=
  key = member.key || member.aliases.contains key

/-- A value for every member. -/
def Row : List Member -> Type
  | [] => Unit
  | member :: members => member.Value × Row members

/-- The members read so far. -/
def Slots : List Member -> Type
  | [] => Unit
  | member :: members => Option member.Value × Slots members

/-- A record that can be read. -/
structure Shape (α : Type) where
  name : String
  members : List Member
  build : Row members -> α

/-- No member read. -/
def Slots.empty : (members : List Member) -> Slots members
  | [] => ()
  | _ :: members => (none, Slots.empty members)

/-- Whether a key names one of the members. -/
def knows (members : List Member) (key : String) : Bool :=
  members.any (·.answersTo key)

/-- How a record is called where a value of another type stands. -/
def Shape.title {α : Type} (shape : Shape α) : String :=
  "struct " ++ shape.name

/-- How a record is called where a list is too short for it. -/
def Shape.extent {α : Type} (shape : Shape α) : String :=
  shape.title ++ " with " ++ toString shape.members.length ++
    (if shape.members.length = 1 then " element" else " elements")

/-- What is left behind the end of an object that was refused, if its end comes next. -/
def pastObject (left : List Char) : List Char :=
  match skipBlanks left with
  | '\x7d' :: rest => rest
  | left => left

/-- Reads the value of the member that `key` names into its slot, behind the key. A
member that was read before is refused. -/
def Slots.fill (key : String) :
    (members : List Member) -> Slots members -> Reader (Slots members)
  | [], slots, left => .ok (slots, left)
  | member :: members, (slot, slots), left =>
      if member.answersTo key then
        match slot with
        | some _ => refuse (.repeatedMember member.key) (pastObject left)
        | none => do
            let left <- demandColon left
            let (value, left) <- member.read left
            .ok ((some value, slots), left)
      else do
        let (slots, left) <- Slots.fill key members slots left
        .ok ((slot, slots), left)

/-- The row of an object that has ended: absent members fall back, and the first that
cannot is refused. -/
def Slots.complete :
    (members : List Member) -> Slots members -> List Char -> Except Fault (Row members)
  | [], _, _ => .ok ()
  | member :: members, (slot, slots), left => do
      let value <-
        match slot.or member.fallback with
        | some value => .ok value
        | none => refuse (.missingMember member.key) left
      let row <- Slots.complete members slots left
      .ok (value, row)

/-- Looks for the next key of an object; none if the object ends. `first` says that no
member was read yet. -/
def nextKey (first : Bool) : Reader (Option String) := fun left =>
  match skipBlanks left with
  | [] => refuse (.unfinished .object) []
  | c :: rest =>
      if c = '\x7d' then .ok (none, rest)
      else if first then
        if c = '"' then do
          let (key, rest) <- readText rest
          .ok (some key, rest)
        else refuseNext .keyExpected (c :: rest)
      else if c = ',' then
        match skipBlanks rest with
        | [] => refuse .unfinishedValue []
        | next :: behind =>
            if next = '"' then do
              let (key, behind) <- readText behind
              .ok (some key, behind)
            else if next = '\x7d' then refuseNext .trailingComma (next :: behind)
            else refuseNext .keyExpected (next :: behind)
      else refuseNext (.moreExpected .object) (c :: rest)

/-- Reads the members of an object, behind its bracket. -/
def readMembers (members : List Member) :
    Nat -> Bool -> Slots members -> Reader (Row members)
  | 0, _, _, left => refuse .unfinishedValue left
  | fuel + 1, first, slots, left => do
      let (key?, left) <- nextKey first left
      match key? with
      | none =>
          let row <- Slots.complete members slots left
          .ok (row, left)
      | some key =>
          if knows members key then
            let (slots, left) <- Slots.fill key members slots left
            readMembers members fuel false slots left
          else
            let left <- demandColon left
            let left <- skipValue left
            readMembers members fuel false slots left

/-- Reads the values of a list into a row, behind its bracket. `length` counts the
values read so far. -/
def readRow (extent : String) :
    (members : List Member) -> (length : Nat) -> Reader (Row members)
  | [], _, left => .ok ((), left)
  | member :: members, length, left => do
      let (more, left) <- nextElement (length = 0) left
      if more then
        let (value, left) <- member.read left
        let (row, left) <- readRow extent members (length + 1) left
        .ok ((value, row), left)
      else
        match member.fallback with
        | none => refuse (.wrongLength length extent) (left.drop 1)
        | some value =>
            let (row, left) <- readRow extent members (length + 1) left
            .ok ((value, row), left)

/-- Reads a record. -/
def Shape.read {α : Type} (shape : Shape α) : Reader α := fun left =>
  match skipBlanks left with
  | '[' :: rest => do
      let (row, rest) <- readRow shape.extent shape.members 0 rest
      let rest <- endList rest
      .ok (shape.build row, rest)
  | '\x7b' :: rest => do
      let (row, rest) <-
        readMembers shape.members (rest.length + 1) true (Slots.empty shape.members) rest
      .ok (shape.build row, rest)
  | left => refuseType shape.title left

end Storefront.Json
