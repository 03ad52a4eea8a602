import Storefront.Json.Numeral
import Storefront.Text.Units

/-!
# The grammar of values

`Spells text value rest` says that `text` begins with a value and goes on with `rest`. The
relation, and no reader, is authoritative: it has one rule for every form of JSON, and keeps all
that a form says. `Document` is a text that is one value. What follows a value has no part in how
it is spelled, which `Spells.local` makes precise.
-/

namespace Storefront.Json

open Storefront.Text (Units)

/-- A value with all its text says. A text is kept as the units it spells, which need not pair
their surrogates, and a number as it is written. -/
inductive Value where
  | null
  | boolean (value : Bool)
  | number (numeral : Numeral)
  | text (units : Units)
  | list (items : List Value)
  | object (members : List (Units × Value))

/-! ## Blanks and texts -/

/-- Any number of blanks, and what follows them. -/
inductive Blanks : List Char → List Char → Prop where
  | refl {rest} : Blanks rest rest
  | cons {c text rest} (blank : c = ' ' ∨ c = '\n' ∨ c = '\t' ∨ c = '\r')
      (more : Blanks text rest) : Blanks (c :: text) rest

/-- A hexadecimal digit, in either case, and its value. -/
inductive HexDigit (c : Char) : Nat → Prop where
  | decimal {value : Nat} (code : c.toNat = '0'.toNat + value) (small : value < 10) :
      HexDigit c value
  | lower {value : Nat} (code : c.toNat = 'a'.toNat + value) (small : value < 6) :
      HexDigit c (value + 10)
  | upper {value : Nat} (code : c.toNat = 'A'.toNat + value) (small : value < 6) :
      HexDigit c (value + 10)

/-- Four hexadecimal digits and the unit they spell. -/
inductive UnitDigits : List Char → UInt16 → List Char → Prop where
  | four {a b c d : Char} {i j k l : Nat} {rest} (first : HexDigit a i) (second : HexDigit b j)
      (third : HexDigit c k) (fourth : HexDigit d l) :
      UnitDigits (a :: b :: c :: d :: rest) (((i * 16 + j) * 16 + k) * 16 + l).toUInt16 rest

/-- The letters that stand for a character behind a backslash. -/
def shortEscapes : List (Char × Char) :=
  [('"', '"'), ('\\', '\\'), ('/', '/'), ('b', '\x08'), ('f', '\x0c'), ('n', '\n'), ('r', '\r'),
    ('t', '\t')]

/-- One character of a quoted text or one escape, and the units it spells. -/
inductive Letter : List Char → Units → List Char → Prop where
  | plain {c rest} (printable : ' ' ≤ c) (unquoted : c ≠ '"') (unescaped : c ≠ '\\') :
      Letter (c :: rest) (Units.ofChar c) rest
  | short {letter c rest} (named : (letter, c) ∈ shortEscapes) :
      Letter ('\\' :: letter :: rest) (Units.ofChar c) rest
  | unit {digits unit rest} (spelled : UnitDigits digits unit rest) :
      Letter ('\\' :: 'u' :: digits) [unit] rest

/-- A quoted text behind its opening quote. -/
inductive Letters : List Char → Units → List Char → Prop where
  | close {rest} : Letters ('"' :: rest) [] rest
  | cons {text units next more rest} (letter : Letter text units next)
      (others : Letters next more rest) : Letters text (units ++ more) rest

/-! ## Numbers -/

/-- At least one decimal digit and nothing else. -/
def AreDigits (digits : List Char) : Prop :=
  digits ≠ [] ∧ ∀ digit ∈ digits, digit.isDigit = true

/-- The digits before the point: a zero alone, or any that begin with no zero. -/
inductive WholeDigits : List Char → List Char → List Char → Prop where
  | zero {rest} : WholeDigits ('0' :: rest) ['0'] rest
  | digits {digits rest} (are : AreDigits digits) (leading : digits.head? ≠ some '0') :
      WholeDigits (digits ++ rest) digits rest

/-- A point with digits behind it, or neither. -/
inductive Fraction : List Char → Option (List Char) → List Char → Prop where
  | none {rest} : Fraction rest none rest
  | some {digits rest} (are : AreDigits digits) :
      Fraction ('.' :: (digits ++ rest)) (some digits) rest

/-- The sign of an exponent, and whether it is negative. -/
inductive ExponentSign : List Char → Bool → List Char → Prop where
  | none {rest} : ExponentSign rest false rest
  | plus {rest} : ExponentSign ('+' :: rest) false rest
  | minus {rest} : ExponentSign ('-' :: rest) true rest

/-- An exponent, or none. -/
inductive Exponent : List Char → Option (Bool × List Char) → List Char → Prop where
  | none {rest} : Exponent rest none rest
  | some {c text negative digits rest} (marked : c = 'e' ∨ c = 'E')
      (sign : ExponentSign text negative (digits ++ rest)) (are : AreDigits digits) :
      Exponent (c :: text) (some (negative, digits)) rest

/-- A number and its parts. -/
inductive NumberText : List Char → Numeral → List Char → Prop where
  | positive {text whole point fraction mark exponent rest}
      (before : WholeDigits text whole point) (behind : Fraction point fraction mark)
      (scaled : Exponent mark exponent rest) :
      NumberText text ⟨false, whole, fraction, exponent⟩ rest
  | negative {text whole point fraction mark exponent rest}
      (before : WholeDigits text whole point) (behind : Fraction point fraction mark)
      (scaled : Exponent mark exponent rest) :
      NumberText ('-' :: text) ⟨true, whole, fraction, exponent⟩ rest

/-! ## Values -/

/-- What comes before an item of a list or a member of an object: blanks, and a comma among them
unless it is the first. -/
inductive Begins : Bool → List Char → List Char → Prop where
  | first {text start} (blanks : Blanks text start) : Begins true text start
  | further {text behind start} (before : Blanks text (',' :: behind))
      (after : Blanks behind start) : Begins false text start

mutual

/-- A value at the front of a text, and what follows it. -/
inductive Spells : List Char → Value → List Char → Prop where
  | null {rest} : Spells ('n' :: 'u' :: 'l' :: 'l' :: rest) .null rest
  | yes {rest} : Spells ('t' :: 'r' :: 'u' :: 'e' :: rest) (.boolean true) rest
  | no {rest} : Spells ('f' :: 'a' :: 'l' :: 's' :: 'e' :: rest) (.boolean false) rest
  | number {text numeral rest} (written : NumberText text numeral rest) :
      Spells text (.number numeral) rest
  | text {text units rest} (quoted : Letters text units rest) :
      Spells ('"' :: text) (.text units) rest
  | list {text items rest} (inside : Items true text items rest) :
      Spells ('[' :: text) (.list items) rest
  | object {text members rest} (inside : Members true text members rest) :
      Spells ('\x7b' :: text) (.object members) rest

/-- The items of a list and its closing bracket. The first stands behind the opening bracket, or
behind an item that was there before. -/
inductive Items : Bool → List Char → List Value → List Char → Prop where
  | close {first text rest} (blanks : Blanks text (']' :: rest)) : Items first text [] rest
  | item {first text start item next items rest} (begins : Begins first text start)
      (value : Spells start item next) (others : Items false next items rest) :
      Items first text (item :: items) rest

/-- The members of an object and its closing bracket. -/
inductive Members : Bool → List Char → List (Units × Value) → List Char → Prop where
  | close {first text rest} (blanks : Blanks text ('\x7d' :: rest)) : Members first text [] rest
  | member {first text label key colon gap start value next members rest}
      (begins : Begins first text ('"' :: label)) (named : Letters label key colon)
      (before : Blanks colon (':' :: gap)) (after : Blanks gap start)
      (spelled : Spells start value next) (others : Members false next members rest) :
      Members first text ((key, value) :: members) rest

end

/-- A text that is one value, with nothing but blanks around it. -/
def Document (text : List Char) (value : Value) : Prop :=
  ∃ start rest, Blanks text start ∧ Spells start value rest ∧ Blanks rest []

/-- A text that is some value. -/
def WellFormed (text : String) : Prop :=
  ∃ value, Document text.toList value

/-! ## What follows a value -/

/-- A rule takes something off the front of a text, and would do so whatever came behind it. -/
def Takes (rule : List Char → List Char → Prop) (text rest : List Char) : Prop :=
  ∃ written, text = written ++ rest ∧ ∀ other, rule (written ++ other) other

theorem Takes.nil {rule : List Char → List Char → Prop} {rest : List Char}
    (always : ∀ rest, rule rest rest) : Takes rule rest rest :=
  ⟨[], rfl, always⟩

/-- A rule that begins with a character and goes on as another. -/
theorem Takes.cons {rule whole : List Char → List Char → Prop} {text rest : List Char} (c : Char)
    (takes : Takes rule text rest)
    (joins : ∀ {text rest}, rule text rest → whole (c :: text) rest) :
    Takes whole (c :: text) rest := by
  obtain ⟨written, rfl, rules⟩ := takes
  exact ⟨c :: written, rfl, fun other => joins (rules other)⟩

/-- A rule that ends with a character. -/
theorem Takes.last {rule whole : List Char → List Char → Prop} {text rest : List Char} {c : Char}
    (takes : Takes rule text (c :: rest))
    (joins : ∀ {text rest}, rule text (c :: rest) → whole text rest) : Takes whole text rest := by
  obtain ⟨written, rfl, rules⟩ := takes
  exact ⟨written ++ [c], by simp, fun other => joins (by simpa using rules (c :: other))⟩

/-- A rule that is two others, one after the other. -/
theorem Takes.trans {first second whole : List Char → List Char → Prop}
    {text middle rest : List Char} (one : Takes first text middle)
    (two : Takes second middle rest)
    (joins : ∀ {text middle rest}, first text middle → second middle rest → whole text rest) :
    Takes whole text rest := by
  obtain ⟨before, rfl, firsts⟩ := one
  obtain ⟨behind, rfl, seconds⟩ := two
  refine ⟨before ++ behind, by simp, fun other => ?_⟩
  rw [List.append_assoc]
  exact joins (firsts _) (seconds other)

theorem Takes.imp {first second : List Char → List Char → Prop} {text rest : List Char}
    (takes : Takes first text rest)
    (implies : ∀ {text rest}, first text rest → second text rest) : Takes second text rest := by
  obtain ⟨written, same, rules⟩ := takes
  exact ⟨written, same, fun other => implies (rules other)⟩

section Local

variable {text rest : List Char}

theorem Blanks.local (blanks : Blanks text rest) : Takes Blanks text rest := by
  induction blanks with
  | refl => exact .nil fun _ => .refl
  | cons blank more inductionHypothesis => exact inductionHypothesis.cons _ (.cons blank)

theorem Letter.local {units : Units} (letter : Letter text units rest) :
    Takes (Letter · units ·) text rest := by
  cases letter with
  | plain printable unquoted unescaped =>
      exact ⟨[_], rfl, fun _ => .plain printable unquoted unescaped⟩
  | short named => exact ⟨['\\', _], rfl, fun _ => .short named⟩
  | unit spelled =>
      cases spelled with
      | four first second third fourth =>
          exact ⟨['\\', 'u', _, _, _, _], rfl, fun _ => .unit (.four first second third fourth)⟩

theorem Letters.local {units : Units} (letters : Letters text units rest) :
    Takes (Letters · units ·) text rest := by
  induction letters with
  | close => exact ⟨['"'], rfl, fun _ => .close⟩
  | cons letter others inductionHypothesis =>
      exact letter.local.trans inductionHypothesis fun one two => .cons one two

theorem WholeDigits.local {digits : List Char} (whole : WholeDigits text digits rest) :
    Takes (WholeDigits · digits ·) text rest := by
  cases whole with
  | zero => exact ⟨['0'], rfl, fun _ => .zero⟩
  | digits are leading => exact ⟨digits, rfl, fun _ => .digits are leading⟩

theorem Fraction.local {digits : Option (List Char)} (fraction : Fraction text digits rest) :
    Takes (Fraction · digits ·) text rest := by
  cases fraction with
  | none => exact .nil fun _ => .none
  | @some digits _ are => exact ⟨'.' :: digits, rfl, fun _ => .some are⟩

theorem ExponentSign.local {negative : Bool} (sign : ExponentSign text negative rest) :
    Takes (ExponentSign · negative ·) text rest := by
  cases sign with
  | none => exact .nil fun _ => .none
  | plus => exact ⟨['+'], rfl, fun _ => .plus⟩
  | minus => exact ⟨['-'], rfl, fun _ => .minus⟩

theorem Exponent.local {parts : Option (Bool × List Char)} (exponent : Exponent text parts rest) :
    Takes (Exponent · parts ·) text rest := by
  cases exponent with
  | none => exact .nil fun _ => .none
  | @some c behind negative digits _ marked sign are =>
      obtain ⟨written, rfl, signs⟩ := sign.local
      refine ⟨c :: (written ++ digits), by simp, fun other => ?_⟩
      simpa using Exponent.some marked (signs (digits ++ other)) are

theorem NumberText.local {numeral : Numeral} (number : NumberText text numeral rest) :
    Takes (NumberText · numeral ·) text rest := by
  cases number with
  | positive before behind scaled =>
      obtain ⟨one, rfl, befores⟩ := before.local
      obtain ⟨two, rfl, behinds⟩ := behind.local
      obtain ⟨three, rfl, exponents⟩ := scaled.local
      refine ⟨one ++ two ++ three, by simp, fun other => ?_⟩
      rw [List.append_assoc, List.append_assoc]
      exact .positive (befores _) (behinds _) (exponents other)
  | negative before behind scaled =>
      obtain ⟨one, rfl, befores⟩ := before.local
      obtain ⟨two, rfl, behinds⟩ := behind.local
      obtain ⟨three, rfl, exponents⟩ := scaled.local
      refine ⟨'-' :: (one ++ two ++ three), by simp, fun other => ?_⟩
      rw [List.cons_append, List.append_assoc, List.append_assoc]
      exact .negative (befores _) (behinds _) (exponents other)

theorem Begins.local {first : Bool} (begins : Begins first text rest) :
    Takes (Begins first) text rest := by
  cases begins with
  | first blanks => exact blanks.local.imp .first
  | further before after =>
      exact (before.local.last id).trans after.local fun one two => .further one two

mutual

/-- What follows a value has no part in how it is spelled. -/
theorem Spells.local {text rest : List Char} {value : Value} :
    Spells text value rest → Takes (Spells · value ·) text rest
  | .null => ⟨['n', 'u', 'l', 'l'], rfl, fun _ => .null⟩
  | .yes => ⟨['t', 'r', 'u', 'e'], rfl, fun _ => .yes⟩
  | .no => ⟨['f', 'a', 'l', 's', 'e'], rfl, fun _ => .no⟩
  | .number written => written.local.imp .number
  | .text quoted => quoted.local.cons '"' .text
  | .list inside => inside.local.cons '[' .list
  | .object inside => inside.local.cons '\x7b' .object

theorem Items.local {first : Bool} {text rest : List Char} {items : List Value} :
    Items first text items rest → Takes (Items first · items ·) text rest
  | .close blanks => blanks.local.last .close
  | .item begins value others => by
      obtain ⟨one, rfl, lead⟩ := begins.local
      obtain ⟨two, rfl, values⟩ := value.local
      obtain ⟨three, rfl, items⟩ := others.local
      refine ⟨one ++ two ++ three, by simp, fun other => ?_⟩
      rw [List.append_assoc, List.append_assoc]
      exact .item (lead _) (values _) (items other)

theorem Members.local {first : Bool} {text rest : List Char} {members : List (Units × Value)} :
    Members first text members rest → Takes (Members first · members ·) text rest
  | .close blanks => blanks.local.last .close
  | .member begins named before after spelled others => by
      obtain ⟨one, rfl, lead⟩ := begins.local
      obtain ⟨two, rfl, key⟩ := named.local
      obtain ⟨three, rfl, colon⟩ := before.local
      obtain ⟨four, rfl, gap⟩ := after.local
      obtain ⟨five, rfl, value⟩ := spelled.local
      obtain ⟨six, rfl, members⟩ := others.local
      refine ⟨one ++ '"' :: (two ++ (three ++ ':' :: (four ++ (five ++ six)))), by simp,
        fun other => ?_⟩
      simp only [List.append_assoc, List.cons_append]
      exact .member (lead _) (key _) (colon _) (gap _) (value _) (members other)

end

end Local

end Storefront.Json
