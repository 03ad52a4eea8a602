import Storefront.Proofs.Scanning

/-!
# Passing over values

A value can be told from what follows it, so the grammar is unambiguous: a text begins with one
value at most, and ends in one way (`Spells.unique`). What is passed over is exactly one value:
`Spells.skipValue_eq` passes over any, and `skipValue_sound` finds one in what was passed over.
-/

namespace Storefront.Json

open Storefront.Text (Units)

/-! ## Where values begin -/

section Heads

variable {text rest : List Char}

/-- A number begins with its sign or with a digit. -/
def BeginsNumber (c : Char) : Prop :=
  c = '-' ∨ c.isDigit = true

theorem WholeDigits.head {digits : List Char} (whole : WholeDigits text digits rest) :
    ∃ c more, text = c :: more ∧ c.isDigit = true := by
  cases whole with
  | zero => exact ⟨'0', rest, rfl, by decide⟩
  | digits are leading =>
      obtain ⟨digit, others, rfl, isDigit⟩ := are.head
      exact ⟨digit, others ++ rest, rfl, isDigit⟩

theorem NumberText.head {numeral : Numeral} (number : NumberText text numeral rest) :
    ∃ c more, text = c :: more ∧ BeginsNumber c := by
  cases number with
  | positive before behind scaled =>
      obtain ⟨c, more, same, isDigit⟩ := before.head
      exact ⟨c, more, same, .inr isDigit⟩
  | negative before behind scaled => exact ⟨'-', _, rfl, .inl rfl⟩

/-- Every value begins with a character that is neither a blank nor a closing bracket. -/
theorem Spells.isElement {value : Value} (spells : Spells text value rest) : IsElement text := by
  cases spells with
  | number written =>
      obtain ⟨c, more, rfl, begins⟩ := written.head
      refine ⟨c, more, rfl, ?_, ?_⟩
      · rw [Bool.eq_false_iff, ne_eq, isBlank_iff]
        rintro (rfl | rfl | rfl | rfl) <;> simp [BeginsNumber] at begins
      · rintro rfl
        simp [BeginsNumber] at begins
  | null | yes | no | text | list | object => exact ⟨_, _, rfl, by decide, by decide⟩

end Heads

/-! ## No two ways to spell -/

section Separators

variable {text : List Char} {first : Bool}

/-- Behind the blanks stands the item itself if it is the first, and a comma if it is not. -/
theorem Begins.skip {c : Char} {start : List Char} (begins : Begins first text (c :: start))
    (solid : isBlank c = false) :
    ∃ more, skipBlanks text = (if first then c else ',') :: more := by
  cases begins with
  | first blanks => exact ⟨start, blanks.stop solid⟩
  | further before after => exact ⟨_, before.stop (by decide)⟩

/-- An item is not taken for a closing bracket. -/
theorem Begins.not_closed {c closer : Char} {start rest : List Char}
    (begins : Begins first text (c :: start)) (solid : isBlank c = false) (other : c ≠ closer)
    (closes : Blanks text (closer :: rest)) (dense : isBlank closer = false)
    (bracket : closer ≠ ',') : False := by
  obtain ⟨more, skipped⟩ := begins.skip solid
  rw [closes.stop dense] at skipped
  cases first with
  | false => exact bracket (List.cons.inj skipped).1
  | true => exact other (List.cons.inj skipped).1.symm

theorem Begins.trans {before start : List Char} (begins : Begins first text before)
    (blanks : Blanks before start) : Begins first text start := by
  cases begins with
  | first skipped => exact .first (skipped.trans blanks)
  | further comma after => exact .further comma (after.trans blanks)

theorem Begins.length_le {start : List Char} (begins : Begins first text start) :
    start.length ≤ text.length := by
  obtain ⟨written, rfl, _⟩ := begins.local
  simp

theorem Begins.unique {start other : List Char} (one : Begins first text start)
    (two : Begins first text other) (element : IsElement start) (another : IsElement other) :
    start = other := by
  obtain ⟨c, more, rfl, solid, _⟩ := element
  obtain ⟨d, others, rfl, dense, _⟩ := another
  cases one with
  | first blanks =>
      cases two with
      | first same => rw [← blanks.stop solid, same.stop dense]
  | further before after =>
      cases two with
      | further same behind =>
          have comma := before.stop (by decide)
          rw [same.stop (by decide)] at comma
          cases comma
          rw [← after.stop solid, behind.stop dense]

theorem Items.delimited {items : List Value} {rest : List Char}
    (inside : Items false text items rest) : Delimited text := by
  cases inside with
  | close blanks => exact blanks.delimited (by simp)
  | item begins value others =>
      cases begins with
      | further before after => exact before.delimited (by simp)

theorem Members.delimited {members : List (Units × Value)} {rest : List Char}
    (inside : Members false text members rest) : Delimited text := by
  cases inside with
  | close blanks => exact blanks.delimited (by simp)
  | member begins named before after spelled others =>
      cases begins with
      | further before after => exact before.delimited (by simp)

end Separators

/-- The first letter of a quoted text is determined by what the text begins with. -/
theorem Letter.unique {text next other : List Char} {units same : Units}
    (one : Letter text units next) (two : Letter text same other) :
    units = same ∧ next = other := by
  have unnamed : ∀ c, ('u', c) ∉ shortEscapes := by
    intro c
    simp [shortEscapes]
  cases one with
  | plain printable unquoted unescaped =>
      cases two with
      | plain => exact ⟨rfl, rfl⟩
      | short | unit => exact absurd rfl unescaped
  | short named =>
      cases two with
      | plain _ _ unescaped => exact absurd rfl unescaped
      | short again =>
          rw [← escaped?_eq_some] at named again
          rw [named, Option.some.injEq] at again
          exact ⟨again ▸ rfl, rfl⟩
      | unit => exact absurd named (unnamed _)
  | unit spelled =>
      cases two with
      | plain _ _ unescaped => exact absurd rfl unescaped
      | short named => exact absurd named (unnamed _)
      | unit again =>
          rw [← readHexUnit_eq_ok] at spelled again
          rw [spelled, Except.ok.injEq, Prod.mk.injEq] at again
          exact ⟨again.1 ▸ rfl, again.2⟩

/-- The closing quote is no letter. -/
theorem Letter.ne_quote {text next : List Char} {units : Units}
    (letter : Letter text units next) (rest : List Char) : text ≠ '"' :: rest := by
  rintro rfl
  cases letter with
  | plain printable unquoted unescaped => exact unquoted rfl

theorem Letters.unique {text rest other : List Char} {units same : Units}
    (one : Letters text units rest) (two : Letters text same other) :
    units = same ∧ rest = other := by
  induction one generalizing same with
  | close =>
      generalize front : '"' :: _ = text at two
      cases two with
      | close => exact ⟨rfl, (List.cons.inj front).2⟩
      | cons letter others => exact absurd front.symm (letter.ne_quote _)
  | cons letter others inductionHypothesis =>
      cases two with
      | close => exact absurd rfl (letter.ne_quote _)
      | cons another more =>
          obtain ⟨rfl, rfl⟩ := letter.unique another
          obtain ⟨rfl, rfl⟩ := inductionHypothesis more
          exact ⟨rfl, rfl⟩

theorem NumberText.unique {text rest other : List Char} {numeral same : Numeral}
    (one : NumberText text numeral rest) (two : NumberText text same other)
    (first : Delimited rest) (last : Delimited other) : numeral = same ∧ rest = other := by
  have scans := one.scanNumeral_eq first .badNumber
  rw [two.scanNumeral_eq last .badNumber, Except.ok.injEq, Prod.mk.injEq] at scans
  exact ⟨scans.1.symm, scans.2.symm⟩

/-- What begins like another value is no number. -/
theorem NumberText.ne_cons {text rest : List Char} {numeral : Numeral}
    (number : NumberText text numeral rest) {c : Char} {more : List Char}
    (other : c ∈ ['n', 't', 'f', '"', '[', '\x7b']) : text ≠ c :: more := by
  rintro rfl
  obtain ⟨d, others, same, begins⟩ := number.head
  obtain ⟨rfl, -⟩ := List.cons.inj same
  have none : ∀ c ∈ ['n', 't', 'f', '"', '[', '\x7b'], c ≠ '-' ∧ c.isDigit = false := by simp
  obtain ⟨unsigned, noDigit⟩ := none c other
  rcases begins with sign | digit
  · exact unsigned sign
  · simp [noDigit] at digit

mutual

/-- A text begins with one value at most, which ends in one place. -/
theorem Spells.unique {text rest other : List Char} {value same : Value} :
    Spells text value rest → Spells text same other → Delimited rest → Delimited other →
      value = same ∧ rest = other
  | .null, second, _, _ => by
      cases second with
      | null => exact ⟨rfl, rfl⟩
      | number written => exact absurd rfl (written.ne_cons (by decide))
  | .yes, second, _, _ => by
      cases second with
      | yes => exact ⟨rfl, rfl⟩
      | number written => exact absurd rfl (written.ne_cons (by decide))
  | .no, second, _, _ => by
      cases second with
      | no => exact ⟨rfl, rfl⟩
      | number written => exact absurd rfl (written.ne_cons (by decide))
  | .number written, second, first, last => by
      cases second with
      | number again =>
          obtain ⟨rfl, rfl⟩ := written.unique again first last
          exact ⟨rfl, rfl⟩
      | null | yes | no | text | list | object =>
          exact absurd rfl (written.ne_cons (by decide))
  | .text quoted, second, _, _ => by
      cases second with
      | text again =>
          obtain ⟨rfl, rfl⟩ := quoted.unique again
          exact ⟨rfl, rfl⟩
      | number written => exact absurd rfl (written.ne_cons (by decide))
  | .list inside, second, _, _ => by
      cases second with
      | list again =>
          obtain ⟨rfl, rfl⟩ := inside.unique again
          exact ⟨rfl, rfl⟩
      | number written => exact absurd rfl (written.ne_cons (by decide))
  | .object inside, second, _, _ => by
      cases second with
      | object again =>
          obtain ⟨rfl, rfl⟩ := inside.unique again
          exact ⟨rfl, rfl⟩
      | number written => exact absurd rfl (written.ne_cons (by decide))

theorem Items.unique {first : Bool} {text rest other : List Char} {items same : List Value} :
    Items first text items rest → Items first text same other → items = same ∧ rest = other
  | .close blanks, second => by
      cases second with
      | close again =>
          have skipped := blanks.stop (by decide)
          rw [again.stop (by decide)] at skipped
          exact ⟨rfl, (List.cons.inj skipped).2.symm⟩
      | item begins value others =>
          obtain ⟨c, more, rfl, solid, inside⟩ := value.isElement
          exact (begins.not_closed solid inside blanks (by decide) (by decide)).elim
  | .item begins value others, second => by
      cases second with
      | close blanks =>
          obtain ⟨c, more, rfl, solid, inside⟩ := value.isElement
          exact (begins.not_closed solid inside blanks (by decide) (by decide)).elim
      | item lead again more =>
          obtain rfl := begins.unique lead value.isElement again.isElement
          obtain ⟨rfl, rfl⟩ := value.unique again others.delimited more.delimited
          obtain ⟨rfl, rfl⟩ := others.unique more
          exact ⟨rfl, rfl⟩

theorem Members.unique {first : Bool} {text rest other : List Char}
    {members same : List (Units × Value)} :
    Members first text members rest → Members first text same other →
      members = same ∧ rest = other
  | .close blanks, second => by
      cases second with
      | close again =>
          have skipped := blanks.stop (by decide)
          rw [again.stop (by decide)] at skipped
          exact ⟨rfl, (List.cons.inj skipped).2.symm⟩
      | member begins =>
          exact (begins.not_closed (by decide) (by decide) blanks (by decide) (by decide)).elim
  | .member begins named before after spelled others, second => by
      have quote : ∀ label, IsElement ('"' :: label) :=
        fun label => ⟨'"', label, rfl, by decide, by decide⟩
      cases second with
      | close blanks =>
          exact (begins.not_closed (by decide) (by decide) blanks (by decide) (by decide)).elim
      | member lead again colon gap value more =>
          cases begins.unique lead (quote _) (quote _)
          obtain ⟨rfl, rfl⟩ := named.unique again
          have skipped := before.stop (by decide)
          rw [colon.stop (by decide)] at skipped
          cases skipped
          obtain rfl := (Begins.first after).unique (.first gap) spelled.isElement value.isElement
          obtain ⟨rfl, rfl⟩ := spelled.unique value others.delimited more.delimited
          obtain ⟨rfl, rfl⟩ := others.unique more
          exact ⟨rfl, rfl⟩

end

/-- A text is one value at most. -/
theorem Document.unique {text : List Char} {value same : Value} (one : Document text value)
    (two : Document text same) : value = same := by
  obtain ⟨start, rest, before, spells, after⟩ := one
  obtain ⟨other, last, first, again, behind⟩ := two
  obtain rfl := (Begins.first before).unique (.first first) spells.isElement again.isElement
  exact (spells.unique again after.delimited_nil behind.delimited_nil).1

/-! ## Passing over what is spelled -/

theorem demandWord_eq_ok {word left rest : List Char} :
    demandWord word left = .ok rest ↔ left = word ++ rest := by
  induction word generalizing left with
  | nil => simp [demandWord]
  | cons wanted word inductionHypothesis =>
      cases left with
      | nil => simp [demandWord, refuse]
      | cons c left =>
          by_cases same : c = wanted
          · simp [demandWord, same, inductionHypothesis]
          · simp [demandWord, same, refuseNext]

theorem demandColon_eq_ok {left rest : List Char} :
    demandColon left = .ok rest ↔ Blanks left (':' :: rest) := by
  constructor
  · intro demands
    unfold demandColon at demands
    split at demands
    · simp [refuse] at demands
    · next c behind skipped =>
      split at demands
      · next same =>
        subst same
        cases demands
        exact blanks_of_skip skipped
      · simp [refuseNext] at demands
  · intro blanks
    simp [demandColon, blanks.stop (by decide)]

theorem skipNumber_eq_ok {left rest : List Char} (delimited : Delimited rest) {numeral : Numeral}
    (number : NumberText left numeral rest) : skipNumber left = .ok rest := by
  simp [skipNumber, number.scanNumeral_eq delimited, bind, Except.bind]

theorem skipNumber_sound {left rest : List Char} (skips : skipNumber left = .ok rest) :
    ∃ numeral, NumberText left numeral rest := by
  obtain ⟨⟨numeral, last⟩, scans, skips⟩ := bind_eq_ok.mp skips
  cases skips
  exact ⟨numeral, scanNumeral_sound scans⟩

/-- Goes on with what stands behind a value that holds no other. -/
def skipScalar (c : Char) (rest : List Char) : Except Fault (List Char) :=
  if c = 'n' then demandWord ['u', 'l', 'l'] rest
  else if c = 't' then demandWord ['r', 'u', 'e'] rest
  else if c = 'f' then demandWord ['a', 'l', 's', 'e'] rest
  else if c = '"' then skipText rest
  else if c = '-' || c.isDigit then skipNumber (c :: rest)
  else refuseNext .valueExpected (c :: rest)

theorem skipNested_value {fuel : Nat} {frames : List Frame} {left rest : List Char} {c : Char}
    (skipped : skipBlanks left = c :: rest) :
    skipNested (fuel + 1) .value frames left =
      if c = '[' then skipNested fuel (.continue false) (.list :: frames) rest
      else if c = '\x7b' then skipNested fuel (.continue false) (.object :: frames) rest
      else skipScalar c rest >>= skipNested fuel (.continue true) frames := by
  rw [skipNested]
  simp only [skipped, skipScalar, apply_ite (· >>= skipNested fuel (.continue true) frames)]

/-- A value that holds no other is passed over in one step. -/
theorem skipScalar_eq_ok {c : Char} {text rest : List Char} (noList : c ≠ '[')
    (noObject : c ≠ '\x7b') {value : Value} (spells : Spells (c :: text) value rest)
    (delimited : Delimited rest) : skipScalar c text = .ok rest := by
  cases spells with
  | null | yes | no => simp [skipScalar, demandWord]
  | text quoted => simp [skipScalar, skipText_eq_ok.mpr ⟨_, quoted⟩]
  | list => exact absurd rfl noList
  | object => exact absurd rfl noObject
  | number written =>
      have skips := skipNumber_eq_ok delimited written
      obtain ⟨d, more, same, begins⟩ := written.head
      obtain ⟨rfl, rfl⟩ := List.cons.inj same
      have other : c ∉ ['n', 't', 'f', '"', '[', '\x7b'] :=
        fun among => written.ne_cons among rfl
      simp only [List.mem_cons, List.not_mem_nil, or_false, not_or] at other
      have number : (c = '-' || c.isDigit) = true := by simpa [BeginsNumber] using begins
      simp [skipScalar, other, number, skips]

theorem skipScalar_sound {c : Char} {text rest : List Char} (skips : skipScalar c text = .ok rest) :
    ∃ value, Spells (c :: text) value rest := by
  unfold skipScalar at skips
  split at skips
  · next same =>
    subst same
    obtain rfl := demandWord_eq_ok.mp skips
    exact ⟨_, .null⟩
  split at skips
  · next same =>
    subst same
    obtain rfl := demandWord_eq_ok.mp skips
    exact ⟨_, .yes⟩
  split at skips
  · next same =>
    subst same
    obtain rfl := demandWord_eq_ok.mp skips
    exact ⟨_, .no⟩
  split at skips
  · next same =>
    subst same
    obtain ⟨units, quoted⟩ := skipText_eq_ok.mp skips
    exact ⟨_, .text quoted⟩
  split at skips
  · obtain ⟨numeral, number⟩ := skipNumber_sound skips
    exact ⟨_, .number number⟩
  · simp [refuseNext] at skips

/-- What the innermost frame holds behind its opening bracket, or behind a value that was there
before. -/
def Frame.Inside (frame : Frame) (first : Bool) (text rest : List Char) : Prop :=
  match frame with
  | .list => ∃ items, Items first text items rest
  | .object => ∃ members, Members first text members rest

theorem skipLabel_list (left : List Char) : Frame.list.skipLabel left = .ok left := rfl

theorem skipLabel_object {left rest : List Char} :
    Frame.object.skipLabel left = .ok rest ↔ ∃ label key colon, Blanks left ('"' :: label) ∧
      Letters label key colon ∧ Blanks colon (':' :: rest) := by
  constructor
  · intro skips
    simp only [Frame.skipLabel] at skips
    split at skips
    · simp [refuse] at skips
    · next c behind skipped =>
      split at skips
      · next same =>
        subst same
        obtain ⟨colon, text, skips⟩ := bind_eq_ok.mp skips
        obtain ⟨key, quoted⟩ := skipText_eq_ok.mp text
        exact ⟨behind, key, colon, blanks_of_skip skipped, quoted, demandColon_eq_ok.mp skips⟩
      · simp [refuseNext] at skips
  · rintro ⟨label, key, colon, blanks, quoted, before⟩
    simp [Frame.skipLabel, blanks.stop (by decide), skipText_eq_ok.mpr ⟨_, quoted⟩,
      demandColon_eq_ok.mpr before, bind, Except.bind]

section Steps

variable {frame : Frame} {text rest : List Char}

theorem skipNested_closed {first : Bool} (fuel : Nat) (outer : List Frame)
    (blanks : Blanks text (frame.closer :: rest)) :
    skipNested (fuel + 1) (.continue (!first)) (frame :: outer) text =
      skipNested fuel (.continue true) outer rest := by
  have solid : isBlank frame.closer = false := by cases frame <;> decide
  have noComma : frame.closer ≠ ',' := by cases frame <;> decide
  simp [skipNested, blanks.stop solid, noComma]

/-- Behind the comma of an item, if it has one, its label is next. -/
theorem skipNested_begins {first : Bool} {c : Char} {more : List Char} (fuel : Nat)
    (outer : List Frame) (begins : Begins first text (c :: more)) (solid : isBlank c = false)
    (other : c ≠ frame.closer) :
    ∃ before, Blanks before (c :: more) ∧
      skipNested (fuel + 1) (.continue (!first)) (frame :: outer) text =
        frame.skipLabel before >>= skipNested fuel .value (frame :: outer) := by
  cases begins with
  | first blanks =>
      refine ⟨c :: more, .refl, ?_⟩
      simp [skipNested, blanks.stop solid, other]
  | @further _ behind _ before after =>
      refine ⟨behind, after, ?_⟩
      simp [skipNested, before.stop (by decide)]

end Steps

theorem Spells.length_lt {text rest : List Char} {value : Value} (spells : Spells text value rest) :
    rest.length < text.length := by
  obtain ⟨written, rfl, rules⟩ := spells.local
  obtain ⟨c, more, same, _⟩ := (rules []).isElement
  rw [List.append_nil] at same
  simp only [same, List.length_append, List.length_cons]
  omega

theorem Spells.skipNested_scalar {text rest : List Char} {value : Value}
    (spells : Spells text value rest) (delimited : Delimited rest)
    (simple : ∀ c ∈ text.head?, c ≠ '[' ∧ c ≠ '\x7b') :
    ∃ steps, steps + 1 + 2 * rest.length ≤ 2 * text.length ∧
      ∀ fuel frames left, Blanks left text →
        skipNested (fuel + steps) .value frames left =
          skipNested fuel (.continue true) frames rest := by
  have shorter := spells.length_lt
  refine ⟨1, by omega, fun fuel frames left blanks => ?_⟩
  obtain ⟨c, more, rfl, solid, _⟩ := spells.isElement
  obtain ⟨noList, noObject⟩ := simple c rfl
  rw [skipNested_value (blanks.stop solid), if_neg noList, if_neg noObject,
    skipScalar_eq_ok noList noObject spells delimited]
  rfl

mutual

/-- A value is passed over in fewer steps than twice its characters. -/
theorem Spells.skipNested_eq {text rest : List Char} {value : Value} :
    Spells text value rest → Delimited rest →
      ∃ steps, steps + 1 + 2 * rest.length ≤ 2 * text.length ∧
        ∀ fuel frames left, Blanks left text →
          skipNested (fuel + steps) .value frames left =
            skipNested fuel (.continue true) frames rest
  | .list inside, _ => by
      obtain ⟨steps, few, skips⟩ := inside.skipNested_eq
      refine ⟨steps + 1, by simp only [List.length_cons]; omega, fun fuel frames left blanks => ?_⟩
      rw [← Nat.add_assoc, skipNested_value (blanks.stop (by decide)), if_pos rfl]
      exact skips fuel frames
  | .object inside, _ => by
      obtain ⟨steps, few, skips⟩ := inside.skipNested_eq
      refine ⟨steps + 1, by simp only [List.length_cons]; omega, fun fuel frames left blanks => ?_⟩
      rw [← Nat.add_assoc, skipNested_value (blanks.stop (by decide)), if_neg (by decide),
        if_pos rfl]
      exact skips fuel frames
  | .null, delimited => Spells.null.skipNested_scalar delimited (by simp)
  | .yes, delimited => Spells.yes.skipNested_scalar delimited (by simp)
  | .no, delimited => Spells.no.skipNested_scalar delimited (by simp)
  | .text quoted, delimited => (Spells.text quoted).skipNested_scalar delimited (by simp)
  | .number written, delimited => by
      refine (Spells.number written).skipNested_scalar delimited fun c heads => ?_
      obtain ⟨more, rfl⟩ : ∃ more, text = c :: more := by
        cases text with
        | nil => simp at heads
        | cons d more => exact ⟨more, by simpa using heads⟩
      constructor
      · rintro rfl
        exact written.ne_cons (by decide) rfl
      · rintro rfl
        exact written.ne_cons (by decide) rfl

theorem Items.skipNested_eq {first : Bool} {text rest : List Char} {items : List Value} :
    Items first text items rest →
      ∃ steps, steps + 1 + 2 * rest.length ≤ 2 * text.length ∧ ∀ fuel outer,
        skipNested (fuel + steps) (.continue (!first)) (.list :: outer) text =
          skipNested fuel (.continue true) outer rest
  | .close blanks => by
      have shorter := blanks.length_le
      refine ⟨1, by simp only [List.length_cons] at shorter; omega, fun fuel outer => ?_⟩
      exact @skipNested_closed .list _ _ _ fuel outer blanks
  | .item begins value others => by
      obtain ⟨one, few, skipsValue⟩ := value.skipNested_eq others.delimited
      obtain ⟨more, fewer, skipsOthers⟩ := others.skipNested_eq
      have shorter := begins.length_le
      refine ⟨more + one + 1, by omega, fun fuel outer => ?_⟩
      obtain ⟨c, behind, rfl, solid, inside⟩ := value.isElement
      obtain ⟨before, blanks, step⟩ :=
        @skipNested_begins .list _ _ _ _ (fuel + more + one) outer begins solid inside
      have steps : fuel + (more + one + 1) = fuel + more + one + 1 := by omega
      rw [steps, step]
      exact (skipsValue _ _ _ blanks).trans (skipsOthers _ _)

theorem Members.skipNested_eq {first : Bool} {text rest : List Char}
    {members : List (Units × Value)} :
    Members first text members rest →
      ∃ steps, steps + 1 + 2 * rest.length ≤ 2 * text.length ∧ ∀ fuel outer,
        skipNested (fuel + steps) (.continue (!first)) (.object :: outer) text =
          skipNested fuel (.continue true) outer rest
  | .close blanks => by
      have shorter := blanks.length_le
      refine ⟨1, by simp only [List.length_cons] at shorter; omega, fun fuel outer => ?_⟩
      exact @skipNested_closed .object _ _ _ fuel outer blanks
  | .member begins named before after spelled others => by
      obtain ⟨one, few, skipsValue⟩ := spelled.skipNested_eq others.delimited
      obtain ⟨more, fewer, skipsOthers⟩ := others.skipNested_eq
      have shorter := begins.length_le
      have label := named.length_lt
      have colon := before.length_le
      have gap := after.length_le
      simp only [List.length_cons] at shorter colon
      refine ⟨more + one + 1, by omega, fun fuel outer => ?_⟩
      obtain ⟨start, blanks, step⟩ :=
        @skipNested_begins .object _ _ _ _ (fuel + more + one) outer begins (by decide) (by decide)
      have steps : fuel + (more + one + 1) = fuel + more + one + 1 := by omega
      rw [steps, step, skipLabel_object.mpr ⟨_, _, _, blanks, named, before⟩]
      exact (skipsValue _ _ _ after).trans (skipsOthers _ _)

end

/-! ## Nothing else is passed over -/

theorem Frame.Inside.closed {frame : Frame} {first : Bool} {text rest : List Char}
    (blanks : Blanks text (frame.closer :: rest)) : frame.Inside first text rest := by
  cases frame with
  | list => exact ⟨[], .close blanks⟩
  | object => exact ⟨[], .close blanks⟩

/-- A label and a value belong to the inside of a frame. -/
theorem Frame.Inside.item {frame : Frame} {first : Bool} {value : Value}
    {text before behind start next rest : List Char} (begins : Begins first text before)
    (label : frame.skipLabel before = .ok behind) (blanks : Blanks behind start)
    (spells : Spells start value next) (others : frame.Inside false next rest) :
    frame.Inside first text rest := by
  cases frame with
  | list =>
      obtain ⟨items, others⟩ := others
      rw [skipLabel_list] at label
      cases label
      exact ⟨_, .item (begins.trans blanks) spells others⟩
  | object =>
      obtain ⟨members, others⟩ := others
      obtain ⟨quoted, key, colon, lead, named, separated⟩ := skipLabel_object.mp label
      exact ⟨_, .member (begins.trans lead) named separated blanks spells others⟩

/-- A step of the skipper that succeeds has passed over a value, or over what was left of the
innermost frame, and goes on behind it. -/
theorem skipNested_sound (fuel : Nat) :
    (∀ frames left out, skipNested fuel .value frames left = .ok out →
      ∃ start value next more, Blanks left start ∧ Spells start value next ∧ more < fuel ∧
        skipNested more (.continue true) frames next = .ok out) ∧
    (∀ frame outer afterValue left out,
      skipNested fuel (.continue afterValue) (frame :: outer) left = .ok out →
      ∃ next more, frame.Inside (!afterValue) left next ∧ more < fuel ∧
        skipNested more (.continue true) outer next = .ok out) := by
  induction fuel using Nat.strongRecOn with
  | ind fuel inductionHypothesis =>
    cases fuel with
    | zero => simp [skipNested, refuse]
    | succ fuel =>
      obtain ⟨values, insides⟩ := inductionHypothesis fuel (Nat.lt_succ_self _)
      -- A label and a value are passed over, and then what is left of the same frame.
      have further : ∀ {frame outer afterValue left before out},
          Begins (!afterValue) left before →
          (frame.skipLabel before >>= skipNested fuel .value (frame :: outer)) = .ok out →
          ∃ next more, frame.Inside (!afterValue) left next ∧ more < fuel + 1 ∧
            skipNested more (.continue true) outer next = .ok out := by
        intro frame outer afterValue left before out begins skips
        obtain ⟨behind, label, skips⟩ := bind_eq_ok.mp skips
        obtain ⟨start, value, next, more, blanks, spells, less, skips⟩ := values _ _ _ skips
        obtain ⟨last, fewer, inside, lesser, skips⟩ :=
          (inductionHypothesis more (by omega)).2 _ _ _ _ _ skips
        exact ⟨last, fewer, .item begins label blanks spells inside, by omega, skips⟩
      constructor
      · intro frames left out skips
        cases skipped : skipBlanks left with
        | nil => simp [skipNested, skipped, refuse] at skips
        | cons c rest =>
          have blanks := blanks_of_skip skipped
          rw [skipNested_value skipped] at skips
          split at skips
          · next same =>
            obtain ⟨next, more, ⟨items, inside⟩, less, skips⟩ := insides _ _ _ _ _ skips
            exact ⟨_, _, next, more, same ▸ blanks, .list inside, by omega, skips⟩
          split at skips
          · next same =>
            obtain ⟨next, more, ⟨members, inside⟩, less, skips⟩ := insides _ _ _ _ _ skips
            exact ⟨_, _, next, more, same ▸ blanks, .object inside, by omega, skips⟩
          · obtain ⟨next, scalar, skips⟩ := bind_eq_ok.mp skips
            obtain ⟨value, spells⟩ := skipScalar_sound scalar
            exact ⟨_, value, next, fuel, blanks, spells, by omega, skips⟩
      · intro frame outer afterValue left out skips
        cases skipped : skipBlanks left with
        | nil => simp [skipNested, skipped, refuse] at skips
        | cons c rest =>
          have blanks := blanks_of_skip skipped
          simp only [skipNested, skipped] at skips
          split at skips
          · next comma =>
            obtain ⟨rfl, rfl⟩ : afterValue = true ∧ c = ',' := by simpa using comma
            exact further (.further blanks .refl) skips
          split at skips
          · next closes => exact ⟨rest, fuel, .closed (closes ▸ blanks), by omega, skips⟩
          split at skips
          · simp [refuseNext] at skips
          · next first =>
            obtain rfl : afterValue = false := by simpa using first
            exact further (.first blanks) skips

/-- Exactly one value is passed over, whatever it is and however deep. -/
theorem Spells.skipValue_eq {left text rest : List Char} {value : Value}
    (blanks : Blanks left text) (spells : Spells text value rest) (delimited : Delimited rest) :
    skipValue left = .ok rest := by
  obtain ⟨steps, few, skips⟩ := spells.skipNested_eq delimited
  have shorter := blanks.length_le
  obtain ⟨more, enough⟩ : ∃ more, 2 * left.length + 2 = more + 1 + steps :=
    ⟨2 * left.length + 1 - steps, by omega⟩
  rw [skipValue, enough, skips _ _ _ blanks, skipNested]

theorem skipValue_sound {left rest : List Char} (skips : skipValue left = .ok rest) :
    ∃ start value, Blanks left start ∧ Spells start value rest := by
  obtain ⟨start, value, next, more, blanks, spells, less, skips⟩ :=
    (skipNested_sound _).1 _ _ _ skips
  cases more with
  | zero => simp [skipNested, refuse] at skips
  | succ more =>
      cases skips
      exact ⟨start, value, blanks, spells⟩

end Storefront.Json
