import Mathlib.Data.List.Forall2
import Storefront.Json.Document
import Storefront.Proofs.Passing

/-!
# The sense of readers

A reader gives each value a sense: what it reads the value as, if it takes it at all. `Reads`
says that a reader does so faithfully, which is that it reads nothing but spelled values and reads
each of them in its sense however it is spelled. Booleans, texts, whole numbers, lists and whole
documents are read faithfully.
-/

namespace Storefront.Json

open Storefront.Text (Units)

/-- A reader reads values in a sense, and nothing but values. -/
structure Reads {α : Type} (read : Reader α) (sense : Value → α → Prop) : Prop where
  sound : ∀ {left rest result}, read left = .ok (result, rest) →
    ∃ start value, Blanks left start ∧ Spells start value rest ∧ sense value result
  complete : ∀ {left start rest value result}, Blanks left start → Spells start value rest →
    Delimited rest → sense value result → read left = .ok (result, rest)

theorem Reads.congr {α : Type} {read : Reader α} {sense other : Value → α → Prop}
    (reads : Reads read sense) (same : ∀ value result, sense value result ↔ other value result) :
    Reads read other where
  sound := by
    intro left rest result one
    obtain ⟨start, value, blanks, spells, meaning⟩ := reads.sound one
    exact ⟨start, value, blanks, spells, (same _ _).mp meaning⟩
  complete := by
    intro left start rest value result blanks spells delimited meaning
    exact reads.complete blanks spells delimited ((same _ _).mpr meaning)

theorem Ends.delimited {rest : List Char} (ends : Ends rest) : Delimited rest :=
  fun c heads => .inr (ends c heads)

/-- What spells a value wherever it is written reads back in the sense of the value. -/
theorem Reads.readsBack {α : Type} {read : Reader α} {sense : Value → α → Prop}
    (reads : Reads read sense) {written : List Char} {value : Value} {result : α}
    (spells : ∀ rest, Spells (written ++ rest) value rest) (meaning : sense value result) :
    ReadsBack read written result :=
  fun rest ends => reads.complete .refl (spells rest) ends.delimited meaning

/-! ## Single values -/

def IsBoolean (value : Value) (flag : Bool) : Prop :=
  value = .boolean flag

def IsText (value : Value) (text : String) : Prop :=
  value = .text (Units.encode text)

/-- A number that is written without a fraction or an exponent and fits sixty-four signed bits. -/
def IsInteger (value : Value) (number : Int) : Prop :=
  ∃ numeral, value = .number numeral ∧ numeral.wholeValue? = some number ∧
    minSigned ≤ number ∧ number ≤ maxSigned

def IsList {α : Type} (sense : Value → α → Prop) (value : Value) (results : List α) : Prop :=
  ∃ items, value = .list items ∧ List.Forall₂ sense items results

theorem refuseType_error {α : Type} (expected : String) (left : List Char) (result : α) :
    refuseType expected left ≠ .ok result := by
  unfold refuseType
  split
  · simp [refuse]
  · intro reads
    repeat' split at reads
    all_goals
      obtain ⟨⟨found, rest⟩, _, refused⟩ := bind_eq_ok.mp reads
      simp [refuse] at refused

theorem Reads.boolean : Reads readBool IsBoolean where
  sound := by
    intro left rest flag reads
    unfold readBool at reads
    split at reads
    · next behind skipped =>
      cases word : demandWord ['r', 'u', 'e'] behind with
      | error fault => simp [word, Except.map] at reads
      | ok next =>
          rw [word] at reads
          cases reads
          obtain rfl := demandWord_eq_ok.mp word
          exact ⟨_, _, blanks_of_skip skipped, .yes, rfl⟩
    · next behind skipped =>
      cases word : demandWord ['a', 'l', 's', 'e'] behind with
      | error fault => simp [word, Except.map] at reads
      | ok next =>
          rw [word] at reads
          cases reads
          obtain rfl := demandWord_eq_ok.mp word
          exact ⟨_, _, blanks_of_skip skipped, .no, rfl⟩
    · exact absurd reads (refuseType_error _ _ _)
  complete := by
    rintro left start rest value flag blanks spells delimited rfl
    cases spells with
    | yes => simp [readBool, blanks.stop (by decide), demandWord, Except.map]
    | no => simp [readBool, blanks.stop (by decide), demandWord, Except.map]

theorem Reads.string : Reads readString IsText where
  sound := by
    intro left rest text reads
    unfold readString at reads
    split at reads
    · next behind skipped =>
      exact ⟨_, _, blanks_of_skip skipped, .text (readText_eq_ok.mp reads), rfl⟩
    · exact absurd reads (refuseType_error _ _ _)
  complete := by
    rintro left start rest value text blanks spells delimited rfl
    cases spells with
    | text quoted => simp [readString, blanks.stop (by decide), readText_eq_ok.mpr quoted]

theorem readNumber_whole {left rest : List Char} {number : Int} :
    readNumber left = .ok (.whole number, rest) ↔ ∃ numeral,
      scanNumeral .unfinishedValue left = .ok (numeral, rest) ∧
        numeral.wholeValue? = some number := by
  constructor
  · intro reads
    obtain ⟨⟨numeral, behind⟩, scans, reads⟩ := bind_eq_ok.mp reads
    simp only at reads
    split at reads
    · next value valued =>
      cases reads
      exact ⟨numeral, scans, valued⟩
    · obtain ⟨bits, _, reads⟩ := bind_eq_ok.mp reads
      cases reads
  · rintro ⟨numeral, scans, valued⟩
    simp [readNumber, scans, valued, bind, Except.bind]

theorem Reads.integer : Reads readInteger IsInteger where
  sound := by
    intro left rest number reads
    unfold readInteger at reads
    split at reads
    · simp [refuse] at reads
    · next c behind skipped =>
      split at reads
      · obtain ⟨⟨found, next⟩, whole, reads⟩ := bind_eq_ok.mp reads
        cases found with
        | floating bits => simp [refuse] at reads
        | whole value =>
          simp only at reads
          split at reads
          · next fits =>
            cases reads
            obtain ⟨numeral, scans, valued⟩ := readNumber_whole.mp whole
            exact ⟨_, _, blanks_of_skip skipped, .number (scanNumeral_sound scans), numeral, rfl,
              valued, by simpa using fits⟩
          · simp [refuse] at reads
      · exact absurd reads (refuseType_error _ _ _)
  complete := by
    rintro left start rest value number blanks spells delimited ⟨numeral, rfl, valued, fits⟩
    cases spells with
    | number written =>
        obtain ⟨c, more, rfl, begins⟩ := written.head
        obtain ⟨_, _, same, solid, _⟩ := (Spells.number written).isElement
        obtain ⟨rfl, rfl⟩ := List.cons.inj same
        have sign : (c = '-' || c.isDigit) = true := by simpa [BeginsNumber] using begins
        have whole := readNumber_whole.mpr ⟨_, written.scanNumeral_eq delimited _, valued⟩
        simp [readInteger, blanks.stop solid, sign, whole, fits, bind, Except.bind]

/-! ## Lists -/

section Elements

variable {left start rest : List Char} {first : Bool}

theorem nextElement_begins (begins : Begins first left start) (element : IsElement start) :
    nextElement first left = .ok (true, start) := by
  obtain ⟨c, more, rfl, solid, inside⟩ := element
  cases begins with
  | first blanks => simp [nextElement, blanks.stop solid, inside]
  | further before after =>
      simp [nextElement, before.stop (by decide), after.stop solid, inside]

theorem nextElement_closed (blanks : Blanks left (']' :: rest)) :
    nextElement first left = .ok (false, ']' :: rest) := by
  simp [nextElement, blanks.stop (by decide)]

theorem nextElement_sound {more : Bool} (next : nextElement first left = .ok (more, start)) :
    (more = true ∧ Begins first left start) ∨
      (more = false ∧ ∃ rest, start = ']' :: rest ∧ Blanks left start) := by
  unfold nextElement at next
  split at next
  · simp [refuse] at next
  · next c behind skipped =>
    have blanks := blanks_of_skip skipped
    split at next
    · next same =>
      cases next
      exact .inr ⟨rfl, behind, same ▸ rfl, blanks⟩
    split at next
    · next isFirst =>
      cases next
      subst isFirst
      exact .inl ⟨rfl, .first blanks⟩
    split at next
    · next further comma =>
      split at next
      · simp [refuse] at next
      · next d others beyond =>
        split at next
        · simp [refuseNext] at next
        · cases next
          obtain rfl : first = false := by simpa using further
          exact .inl ⟨rfl, .further (comma ▸ blanks) (blanks_of_skip beyond)⟩
    · simp [refuseNext] at next

theorem endList_eq_ok : endList left = .ok rest ↔ Blanks left (']' :: rest) := by
  constructor
  · intro ends
    unfold endList at ends
    split at ends
    · simp [refuse] at ends
    · next c behind skipped =>
      split at ends
      · next same =>
        cases ends
        exact same ▸ blanks_of_skip skipped
      split at ends
      · split at ends <;> simp [refuseNext] at ends
      · simp [refuseNext] at ends
  · intro blanks
    simp [endList, blanks.stop (by decide)]

end Elements

section Lists

variable {α : Type} {read : Reader α} {sense : Value → α → Prop}

theorem readElements_sound (reads : Reads read sense) {fuel : Nat} {seen results : List α}
    {left rest : List Char} (all : readElements read fuel seen left = .ok (results, rest)) :
    ∃ items more, results = seen.reverse ++ more ∧ Items seen.isEmpty left items rest ∧
      List.Forall₂ sense items more := by
  induction fuel generalizing seen left with
  | zero => simp [readElements, refuse] at all
  | succ fuel inductionHypothesis =>
      obtain ⟨⟨more, start⟩, next, all⟩ := bind_eq_ok.mp all
      rcases nextElement_sound next with ⟨rfl, begins⟩ | ⟨rfl, behind, rfl, blanks⟩
      · obtain ⟨⟨element, behind⟩, one, all⟩ := bind_eq_ok.mp all
        obtain ⟨front, value, before, spells, meaning⟩ := reads.sound one
        obtain ⟨items, others, rfl, inside, meanings⟩ := inductionHypothesis all
        exact ⟨value :: items, element :: others, by simp,
          .item (begins.trans before) spells inside, .cons meaning meanings⟩
      · obtain ⟨last, ends, all⟩ := bind_eq_ok.mp all
        cases all
        exact ⟨[], [], by simp, .close (blanks.trans (endList_eq_ok.mp ends)), .nil⟩

theorem Items.readElements_eq (reads : Reads read sense) {items : List Value} {more : List α}
    (meanings : List.Forall₂ sense items more) (fuel : Nat) (seen : List α)
    {left rest : List Char} (inside : Items seen.isEmpty left items rest)
    (enough : left.length < fuel) :
    readElements read fuel seen left = .ok (seen.reverse ++ more, rest) := by
  induction meanings generalizing fuel seen left with
  | nil =>
      obtain ⟨fuel, rfl⟩ : ∃ more, fuel = more + 1 := Nat.exists_eq_succ_of_ne_zero (by omega)
      cases inside with
      | close blanks =>
          simp [readElements, nextElement_closed blanks, endList_eq_ok.mpr .refl, bind, Except.bind]
  | @cons _ result _ _ meaning meanings inductionHypothesis =>
      obtain ⟨fuel, rfl⟩ : ∃ more, fuel = more + 1 := Nat.exists_eq_succ_of_ne_zero (by omega)
      cases inside with
      | item begins spells others =>
          have element := reads.complete .refl spells others.delimited meaning
          have shorter := begins.length_le
          have further := spells.length_lt
          have rest := inductionHypothesis fuel (result :: seen) others (by omega)
          simp [readElements, nextElement_begins begins spells.isElement, element, rest, bind,
            Except.bind]

/-- A list is read as the values of its items, in order. -/
theorem Reads.list (reads : Reads read sense) : Reads (readList read) (IsList sense) where
  sound := by
    intro left rest results all
    unfold readList at all
    split at all
    · next behind skipped =>
      obtain ⟨items, more, rfl, inside, meanings⟩ := readElements_sound reads all
      exact ⟨_, _, blanks_of_skip skipped, .list inside, items, rfl, by simpa using meanings⟩
    · exact absurd all (refuseType_error _ _ _)
  complete := by
    rintro left start rest value results blanks spells delimited ⟨items, rfl, meanings⟩
    cases spells with
    | list inside =>
        have all := inside.readElements_eq reads meanings (_ + 1) [] (Nat.lt_succ_self _)
        simp [readList, blanks.stop (by decide), all]

end Lists

/-! ## Whole texts -/

section Documents

variable {α : Type} {read : Reader α} {sense : Value → α → Prop}

theorem Reads.readWhole_eq_ok (reads : Reads read sense) {text : List Char} {result : α} :
    readWhole read text = .ok result ↔ ∃ value, Document text value ∧ sense value result := by
  constructor
  · intro whole
    obtain ⟨⟨found, left⟩, one, whole⟩ := bind_eq_ok.mp whole
    simp only at whole
    split at whole
    · next skipped =>
      cases whole
      obtain ⟨start, value, blanks, spells, meaning⟩ := reads.sound one
      exact ⟨value, ⟨start, left, blanks, spells, blanks_of_skip skipped⟩, meaning⟩
    · simp [refuseNext] at whole
  · rintro ⟨value, ⟨start, rest, before, spells, after⟩, meaning⟩
    have one := reads.complete before spells after.delimited_nil meaning
    have skipped : skipBlanks rest = [] := by simpa [skipBlanks] using after.skip
    simp [readWhole, one, skipped, bind, Except.bind]

/-- A text is read as a whole if and only if it is a value that has a sense. -/
theorem Reads.readDocument_eq_ok (reads : Reads read sense) {text : String} {result : α} :
    readDocument read text = .ok result ↔
      ∃ value, Document text.toList value ∧ sense value result := by
  rw [← reads.readWhole_eq_ok, readDocument]
  cases readWhole read text.toList <;> simp [Except.mapError]

/-- A text that is a value is read in the senses of that value and in no other. -/
theorem Reads.readDocument_value (reads : Reads read sense) {text : String} {value : Value}
    (document : Document text.toList value) {result : α} :
    readDocument read text = .ok result ↔ sense value result := by
  rw [reads.readDocument_eq_ok]
  constructor
  · rintro ⟨other, again, meaning⟩
    exact document.unique again ▸ meaning
  · exact fun meaning => ⟨value, document, meaning⟩

end Documents

end Storefront.Json
