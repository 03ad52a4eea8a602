/-!
# Texts as sixteen-bit units

A foreign text is a sequence of UTF-16 units, which need not pair its surrogates.
It travels byte-encoded with three bytes to a surrogate and two to a zero. A
sequence whose surrogates all pair is read as the text it spells. Any other is
read byte by byte, and then no byte of a surrogate or of a zero is a character:
each leaves a replacement character.
-/

namespace Storefront.Text

/-- A foreign text. -/
abbrev Units := List UInt16

namespace Units

def isLead (unit : UInt16) : Bool :=
  0xD800 ≤ unit && unit ≤ 0xDBFF

def isTrail (unit : UInt16) : Bool :=
  0xDC00 ≤ unit && unit ≤ 0xDFFF

/-- The character two paired surrogates stand for. -/
def paired (lead trail : UInt16) : Char :=
  Char.ofNat (0x10000 + (lead.toNat - 0xD800) * 0x400 + (trail.toNat - 0xDC00))

/-- The characters of a sequence whose surrogates all pair. -/
def exact : Units -> Option (List Char)
  | [] => some []
  | [unit] => if isLead unit || isTrail unit then none else some [Char.ofNat unit.toNat]
  | unit :: next :: rest =>
      if isLead unit then
        if isTrail next then (exact rest).map (paired unit next :: ·) else none
      else if isTrail unit then none
      else (exact (next :: rest)).map (Char.ofNat unit.toNat :: ·)

/-- One unit read byte by byte. -/
def lossyUnit (unit : UInt16) : List Char :=
  if isLead unit || isTrail unit then List.replicate 3 '\uFFFD'
  else if unit = 0 then List.replicate 2 '\uFFFD'
  else [Char.ofNat unit.toNat]

/-- The text a sequence of units is read as. -/
def decode (units : Units) : String :=
  String.ofList ((exact units).getD (units.flatMap lossyUnit))

/-- The units of one character. -/
def ofChar (c : Char) : Units :=
  if c.toNat < 0x10000 then [c.toNat.toUInt16]
  else
    [(0xD800 + (c.toNat - 0x10000) / 0x400).toUInt16,
      (0xDC00 + (c.toNat - 0x10000) % 0x400).toUInt16]

/-- The units of a text. -/
def encode (text : String) : Units :=
  text.toList.flatMap ofChar

end Units

end Storefront.Text
