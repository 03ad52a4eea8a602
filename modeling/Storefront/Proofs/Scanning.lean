import Storefront.Json.Skip
import Storefront.Proofs.Grammar
import Storefront.Proofs.Units
import Storefront.Proofs.Written

/-!
# Scanning

The parts of a value that hold no other value are scanned as the grammar spells them: blanks,
quoted texts, whether they are read or passed over, and numbers. A quoted text is read as a text
if and only if its units are those of the text, and the scan of a number goes on to the end of
it, if it is followed as values are.
-/

namespace Storefront.Json

open Storefront.Text (Units)

/-- What follows a value in any text: its end, a blank, or what separates or closes values. -/
def Delimited (rest : List Char) : Prop :=
  ∀ c ∈ rest.head?, isBlank c = true ∨ c = ',' ∨ c = ']' ∨ c = '\x7d'

/-- A reading that goes on with what was read succeeds if both halves do. -/
theorem bind_eq_ok {α β : Type} {first : Except Fault α} {next : α → Except Fault β} {value : β} :
    (first >>= next) = .ok value ↔ ∃ middle, first = .ok middle ∧ next middle = .ok value := by
  cases first <;> simp [bind, Except.bind]

/-! ## Blanks -/

theorem isBlank_iff {c : Char} :
    isBlank c = true ↔ c = ' ' ∨ c = '\n' ∨ c = '\t' ∨ c = '\r' := by
  simp [isBlank, or_assoc]

theorem skipBlanks_blanks (text : List Char) : Blanks text (skipBlanks text) := by
  induction text with
  | nil => exact .refl
  | cons c text inductionHypothesis =>
      by_cases blank : isBlank c = true
      · rw [skipBlanks, List.dropWhile_cons_of_pos blank]
        exact .cons (isBlank_iff.mp blank) inductionHypothesis
      · rw [skipBlanks_cons (Bool.eq_false_iff.mpr blank)]
        exact .refl

/-- Blanks that were skipped. -/
theorem blanks_of_skip {text left : List Char} (skipped : skipBlanks text = left) :
    Blanks text left :=
  skipped ▸ skipBlanks_blanks text

namespace Blanks

variable {text rest : List Char}

theorem skip (blanks : Blanks text rest) : skipBlanks text = skipBlanks rest := by
  induction blanks with
  | refl => rfl
  | cons blank more inductionHypothesis =>
      rw [← inductionHypothesis, skipBlanks, List.dropWhile_cons_of_pos (isBlank_iff.mpr blank)]
      rfl

/-- Skipping stops where something else begins. -/
theorem stop {c : Char} (blanks : Blanks text (c :: rest)) (solid : isBlank c = false) :
    skipBlanks text = c :: rest := by
  rw [blanks.skip, skipBlanks_cons solid]

theorem trans {last : List Char} (first : Blanks text rest) (second : Blanks rest last) :
    Blanks text last := by
  induction first with
  | refl => exact second
  | cons blank more inductionHypothesis => exact .cons blank (inductionHypothesis second)

theorem length_le (blanks : Blanks text rest) : rest.length ≤ text.length := by
  obtain ⟨written, rfl, _⟩ := blanks.local
  simp

/-- Whatever stands before a separator can follow a value. -/
theorem delimited {c : Char} (blanks : Blanks text (c :: rest))
    (separates : c = ',' ∨ c = ']' ∨ c = '\x7d') : Delimited text := by
  cases blanks with
  | refl => simpa [Delimited] using .inr separates
  | cons blank more => simpa [Delimited] using .inl (isBlank_iff.mpr blank)

theorem delimited_nil (blanks : Blanks text []) : Delimited text := by
  cases blanks with
  | refl => simp [Delimited]
  | cons blank more => simpa [Delimited] using .inl (isBlank_iff.mpr blank)

end Blanks

/-! ## Escapes -/

theorem hexValue?_eq_some {c : Char} {value : Nat} :
    hexValue? c = some value ↔ HexDigit c value := by
  have zero : '0'.toNat = 48 := rfl
  have nine : '9'.toNat = 57 := rfl
  have a : 'a'.toNat = 97 := rfl
  have f : 'f'.toNat = 102 := rfl
  have bigA : 'A'.toNat = 65 := rfl
  have bigF : 'F'.toNat = 70 := rfl
  have order : ∀ first second : Char, first ≤ second ↔ first.toNat ≤ second.toNat :=
    fun _ _ => Iff.rfl
  constructor
  · intro valued
    unfold hexValue? at valued
    simp only [Bool.and_eq_true, decide_eq_true_eq, order] at valued
    split at valued
    · cases valued
      exact .decimal (by omega) (by omega)
    · split at valued
      · cases valued
        exact .lower (by omega) (by omega)
      · split at valued
        · cases valued
          exact .upper (by omega) (by omega)
        · simp at valued
  · intro digit
    unfold hexValue?
    simp only [Bool.and_eq_true, decide_eq_true_eq, order]
    cases digit with
    | decimal code small => rw [if_pos (by omega)]; congr 1; omega
    | lower code small => rw [if_neg (by omega), if_pos (by omega)]; congr 1; omega
    | upper code small =>
        rw [if_neg (by omega), if_neg (by omega), if_pos (by omega)]; congr 1; omega

theorem escaped?_eq_some {letter c : Char} :
    escaped? letter = some c ↔ (letter, c) ∈ shortEscapes := by
  constructor
  · intro named
    unfold escaped? at named
    split at named <;> cases named <;> decide
  · intro named
    simp only [shortEscapes, List.mem_cons, Prod.mk.injEq, List.not_mem_nil, or_false] at named
    rcases named with ⟨rfl, rfl⟩ | ⟨rfl, rfl⟩ | ⟨rfl, rfl⟩ | ⟨rfl, rfl⟩ | ⟨rfl, rfl⟩ |
      ⟨rfl, rfl⟩ | ⟨rfl, rfl⟩ | ⟨rfl, rfl⟩ <;> rfl

theorem readHexUnit_eq_ok {left rest : List Char} {unit : UInt16} :
    readHexUnit left = .ok (unit, rest) ↔ UnitDigits left unit rest := by
  constructor
  · intro reads
    unfold readHexUnit at reads
    split at reads
    · next spelled =>
      cases reads
      unfold hexUnit? at spelled
      split at spelled
      · next a b c d taken =>
        simp only [Option.bind_eq_bind, Option.bind_eq_some_iff, Option.pure_def,
          Option.some.injEq] at spelled
        obtain ⟨i, first, j, second, k, third, l, fourth, rfl⟩ := spelled
        have whole := List.take_append_drop 4 left
        rw [taken] at whole
        rw [hexValue?_eq_some] at first second third fourth
        rw [← whole]
        simpa using UnitDigits.four first second third fourth
      · simp at spelled
    · split at reads <;> simp [refuse] at reads
  · intro digits
    cases digits with
    | four first second third fourth =>
        rw [← hexValue?_eq_some] at first second third fourth
        simp [readHexUnit, hexUnit?, first, second, third, fourth]

/-- The one or two units that escapes spell a character by, behind the first `u`. -/
inductive HexEscape (text : List Char) : Char → List Char → Prop where
  | single {unit rest} (spelled : UnitDigits text unit rest)
      (noLead : Units.isLead unit = false) (noTrail : Units.isTrail unit = false) :
      HexEscape text (Char.ofNat unit.toNat) rest
  | pair {lead next trail rest} (first : UnitDigits text lead ('\\' :: 'u' :: next))
      (second : UnitDigits next trail rest) (leads : Units.isLead lead = true)
      (trails : Units.isTrail trail = true) :
      HexEscape text (Units.paired lead trail) rest

theorem demandEscape_eq_ok {wanted : Char} {left rest : List Char} :
    demandEscape wanted left = .ok rest ↔ left = wanted :: rest := by
  unfold demandEscape
  split
  · simp [refuse]
  · split
    · next same => simp [same]
    · next other => simp [refuseNext, other]

theorem readHexEscape_eq_ok {left rest : List Char} {c : Char} :
    readHexEscape left = .ok (c, rest) ↔ HexEscape left c rest := by
  constructor
  · intro reads
    obtain ⟨⟨unit, behind⟩, digits, reads⟩ := bind_eq_ok.mp reads
    rw [readHexUnit_eq_ok] at digits
    simp only at reads
    split at reads
    · simp [refuse] at reads
    · next noTrail =>
      split at reads
      · next leads =>
        obtain ⟨letter, slash, reads⟩ := bind_eq_ok.mp reads
        obtain ⟨next, u, reads⟩ := bind_eq_ok.mp reads
        obtain ⟨⟨trail, last⟩, second, reads⟩ := bind_eq_ok.mp reads
        split at reads
        · next trails =>
          obtain ⟨rfl, rfl⟩ : Units.paired unit trail = c ∧ last = rest := by simpa using reads
          rw [demandEscape_eq_ok.mp slash, demandEscape_eq_ok.mp u] at digits
          exact .pair digits (readHexUnit_eq_ok.mp second) leads trails
        · simp [refuse] at reads
      · next noLead =>
        cases reads
        exact .single digits (Bool.eq_false_iff.mpr noLead) (Bool.eq_false_iff.mpr noTrail)
  · intro escape
    unfold readHexEscape
    cases escape with
    | single spelled noLead noTrail =>
        simp [readHexUnit_eq_ok.mpr spelled, bind, Except.bind, noLead, noTrail]
    | @pair lead next trail _ first second leads trails =>
        have noTrail : Units.isTrail lead = false := by
          rw [Bool.eq_false_iff]
          intro other
          simp [Units.isLead_of_isTrail other] at leads
        have slash : demandEscape '\\' ('\\' :: 'u' :: next) = .ok ('u' :: next) :=
          demandEscape_eq_ok.mpr rfl
        have u : demandEscape 'u' ('u' :: next) = .ok next := demandEscape_eq_ok.mpr rfl
        simp only [readHexUnit_eq_ok.mpr first, bind, Except.bind, noTrail, Bool.false_eq_true,
          if_false, leads, if_true, slash, u, readHexUnit_eq_ok.mpr second, trails]

/-! ## Quoted texts -/

theorem UnitDigits.length_lt {text rest : List Char} {unit : UInt16}
    (digits : UnitDigits text unit rest) : rest.length < text.length := by
  cases digits
  simp only [List.length_cons]
  omega

theorem Letter.length_lt {text rest : List Char} {units : Units}
    (letter : Letter text units rest) : rest.length < text.length := by
  cases letter with
  | plain | short => grind
  | unit spelled =>
      have shorter := spelled.length_lt
      simp only [List.length_cons]
      omega

theorem Letter.units_ne_nil {text rest : List Char} {units : Units}
    (letter : Letter text units rest) : units ≠ [] := by
  cases letter with
  | plain | short => exact Units.ofChar_ne_nil _
  | unit spelled => simp

namespace Letters

variable {text rest : List Char} {units : Units}

theorem length_lt (letters : Letters text units rest) : rest.length < text.length := by
  induction letters with
  | close => simp
  | cons letter others inductionHypothesis =>
      exact Nat.lt_trans inductionHypothesis letter.length_lt

/-- Nothing is spelled by the closing quote alone. -/
theorem of_nil (letters : Letters text [] rest) : text = '"' :: rest := by
  generalize nothing : ([] : Units) = units at letters
  cases letters with
  | close => rfl
  | cons letter others =>
      exact absurd (List.append_eq_nil_iff.mp nothing.symm).1 letter.units_ne_nil

/-- An escape that begins with a unit of a text spells the character of it. -/
theorem hexEscape {digits next : List Char} {c : Char} {unit : UInt16} {more others : Units}
    (spelled : UnitDigits digits unit next) (letters : Letters next others rest)
    (same : Units.ofChar c ++ more = unit :: others) :
    ∃ behind, HexEscape digits c behind ∧ Letters behind more rest ∧
      behind.length < digits.length := by
  have forms := Units.ofChar_forms c
  generalize Units.ofChar c = written at forms same
  cases forms with
  | single code noLead noTrail =>
      obtain ⟨rfl, rfl⟩ := List.cons.inj same
      have escape : HexEscape digits _ next := .single spelled noLead noTrail
      rw [code, Char.ofNat_toNat] at escape
      exact ⟨next, escape, letters, spelled.length_lt⟩
  | @pair lead trail leads trails paired =>
      obtain ⟨rfl, tail⟩ := List.cons.inj same
      have two : trail :: more = others := tail
      cases letters with
      | close => simp at two
      | cons letter behind =>
          cases letter with
          | plain | short => exact absurd two.symm (Units.ofChar_ne_trail trails)
          | unit second =>
              obtain ⟨rfl, rfl⟩ := List.cons.inj two
              have shorter := spelled.length_lt
              have further := second.length_lt
              simp only [List.length_cons] at shorter
              exact ⟨_, paired ▸ .pair spelled second leads trails, behind, by omega⟩

/-- Units that begin with a character are read on from behind it. -/
theorem readTextFrom_step {c : Char} {more : Units}
    (letters : Letters text (Units.ofChar c ++ more) rest) :
    ∃ next, Letters next more rest ∧ next.length < text.length ∧ ∀ fuel seen,
      readTextFrom (fuel + 1) seen text = readTextFrom fuel (c :: seen) next := by
  generalize same : Units.ofChar c ++ more = units at letters
  cases letters with
  | close => simp [Units.ofChar_ne_nil] at same
  | @cons _ _ next _ _ letter others =>
      cases letter with
      | plain printable unquoted unescaped =>
          obtain ⟨rfl, rfl⟩ := Units.ofChar_append_inj same
          refine ⟨next, others, by simp, fun fuel seen => ?_⟩
          simp [readTextFrom, unquoted, unescaped, Char.not_lt.mpr printable]
      | short named =>
          obtain ⟨rfl, rfl⟩ := Units.ofChar_append_inj same
          refine ⟨next, others, by simp only [List.length_cons]; omega, fun fuel seen => ?_⟩
          simp [readTextFrom, readEscape, escaped?_eq_some.mpr named, bind, Except.bind]
      | unit spelled =>
          obtain ⟨behind, escape, rest, shorter⟩ := hexEscape spelled others same
          refine ⟨behind, rest, by simp only [List.length_cons]; omega, fun fuel seen => ?_⟩
          have unnamed : escaped? 'u' = none := rfl
          simp [readTextFrom, readEscape, unnamed, readHexEscape_eq_ok.mpr escape, bind,
            Except.bind]

/-- A quoted text that spells the units of some characters is read as them. -/
theorem readTextFrom_eq {chars : List Char}
    (letters : Letters text (chars.flatMap Units.ofChar) rest)
    (fuel : Nat) (enough : text.length < fuel) (seen : List Char) :
    readTextFrom fuel seen text = .ok (String.ofList (seen.reverse ++ chars), rest) := by
  induction chars generalizing text fuel seen with
  | nil =>
      obtain ⟨fuel, rfl⟩ : ∃ more, fuel = more + 1 := Nat.exists_eq_succ_of_ne_zero (by omega)
      simp [letters.of_nil, readTextFrom]
  | cons c chars inductionHypothesis =>
      obtain ⟨fuel, rfl⟩ : ∃ more, fuel = more + 1 := Nat.exists_eq_succ_of_ne_zero (by omega)
      obtain ⟨next, others, shorter, step⟩ := letters.readTextFrom_step
      rw [step, inductionHypothesis others fuel (by omega)]
      simp

end Letters

/-- An escape that was read is a letter or two of the text. -/
theorem readEscape_sound {left rest : List Char} {c : Char}
    (reads : readEscape left = .ok (c, rest))
    {more : Units} {out : List Char} (others : Letters rest more out) :
    Letters ('\\' :: left) (Units.ofChar c ++ more) out := by
  unfold readEscape at reads
  split at reads
  · simp [refuse] at reads
  · next letter behind =>
    split at reads
    · next spelled =>
      cases reads
      exact .cons (.short (escaped?_eq_some.mp spelled)) others
    · split at reads
      · next same =>
        subst same
        rw [readHexEscape_eq_ok] at reads
        cases reads with
        | single spelled noLead noTrail =>
            rw [Units.ofChar_ofNat noLead noTrail]
            exact .cons (.unit spelled) others
        | pair first second leads trails =>
            rw [Units.ofChar_paired leads trails]
            have behind : Letters _ ([_] ++ more) out := .cons (.unit second) others
            have whole : Letters _ ([_] ++ ([_] ++ more)) out := .cons (.unit first) behind
            exact whole
      · simp [refuseNext] at reads

theorem readTextFrom_sound {fuel : Nat} {seen left rest : List Char} {text : String}
    (reads : readTextFrom fuel seen left = .ok (text, rest)) :
    ∃ chars, text = String.ofList (seen.reverse ++ chars) ∧
      Letters left (chars.flatMap Units.ofChar) rest := by
  induction fuel generalizing seen left with
  | zero => simp [readTextFrom, refuse] at reads
  | succ fuel inductionHypothesis =>
      unfold readTextFrom at reads
      split at reads
      · simp [refuse] at reads
      · next c behind =>
        split at reads
        · next same =>
          subst same
          cases reads
          exact ⟨[], by simp, .close⟩
        · next unquoted =>
          split at reads
          · next same =>
            subst same
            obtain ⟨⟨spelled, next⟩, escape, reads⟩ := bind_eq_ok.mp reads
            obtain ⟨chars, rfl, letters⟩ := inductionHypothesis reads
            exact ⟨spelled :: chars, by simp, readEscape_sound escape letters⟩
          · next unescaped =>
            split at reads
            · simp [refuse] at reads
            · next printable =>
              obtain ⟨chars, rfl, letters⟩ := inductionHypothesis reads
              exact ⟨c :: chars, by simp,
                .cons (.plain (Char.not_lt.mp printable) unquoted unescaped) letters⟩

/-- A text is read if and only if the letters spell its units. -/
theorem readText_eq_ok {left rest : List Char} {text : String} :
    readText left = .ok (text, rest) ↔ Letters left (Units.encode text) rest := by
  constructor
  · intro reads
    obtain ⟨chars, rfl, letters⟩ := readTextFrom_sound reads
    simpa [Units.encode] using letters
  · intro letters
    rw [readText, letters.readTextFrom_eq _ (Nat.lt_succ_self _)]
    simp

/-- A quoted text is passed over whatever it spells. -/
theorem Letters.skipTextFrom_eq {left rest : List Char} {units : Units}
    (letters : Letters left units rest)
    (fuel : Nat) (enough : left.length < fuel) : skipTextFrom fuel left = .ok rest := by
  induction letters generalizing fuel with
  | close =>
      obtain ⟨fuel, rfl⟩ : ∃ more, fuel = more + 1 := Nat.exists_eq_succ_of_ne_zero (by omega)
      simp [skipTextFrom]
  | cons letter others inductionHypothesis =>
      obtain ⟨fuel, rfl⟩ : ∃ more, fuel = more + 1 := Nat.exists_eq_succ_of_ne_zero (by omega)
      have shorter := letter.length_lt
      have rest := inductionHypothesis fuel (by omega)
      cases letter with
      | plain printable unquoted unescaped =>
          simp [skipTextFrom, unquoted, unescaped, Char.not_lt.mpr printable, rest]
      | short named =>
          simp [skipTextFrom, skipEscape, escaped?_eq_some.mpr named, bind, Except.bind, rest]
      | unit spelled =>
          have unnamed : escaped? 'u' = none := rfl
          simp [skipTextFrom, skipEscape, unnamed, readHexUnit_eq_ok.mpr spelled, bind, Except.bind,
            rest]

/-- An escape that was passed over is one letter of the text. -/
theorem skipEscape_sound {left rest : List Char} (skips : skipEscape left = .ok rest) :
    ∃ units, Letter ('\\' :: left) units rest := by
  unfold skipEscape at skips
  split at skips
  · simp [refuse] at skips
  · next letter behind =>
    split at skips
    · next named =>
      cases skips
      obtain ⟨c, spelled⟩ := Option.isSome_iff_exists.mp named
      exact ⟨_, .short (escaped?_eq_some.mp spelled)⟩
    · split at skips
      · next same =>
        subst same
        obtain ⟨⟨unit, next⟩, digits, skips⟩ := bind_eq_ok.mp skips
        cases skips
        exact ⟨[unit], .unit (readHexUnit_eq_ok.mp digits)⟩
      · simp [refuseNext] at skips

theorem skipTextFrom_sound {fuel : Nat} {left rest : List Char}
    (skips : skipTextFrom fuel left = .ok rest) : ∃ units, Letters left units rest := by
  induction fuel generalizing left with
  | zero => simp [skipTextFrom, refuse] at skips
  | succ fuel inductionHypothesis =>
      unfold skipTextFrom at skips
      split at skips
      · simp [refuse] at skips
      · next c behind =>
        split at skips
        · next same =>
          subst same
          cases skips
          exact ⟨[], .close⟩
        · next unquoted =>
          split at skips
          · next same =>
            subst same
            obtain ⟨next, escape, skips⟩ := bind_eq_ok.mp skips
            obtain ⟨units, letter⟩ := skipEscape_sound escape
            obtain ⟨more, letters⟩ := inductionHypothesis skips
            exact ⟨units ++ more, .cons letter letters⟩
          · next unescaped =>
            split at skips
            · simp [refuse] at skips
            · next printable =>
              obtain ⟨more, letters⟩ := inductionHypothesis skips
              exact ⟨_, .cons (.plain (Char.not_lt.mp printable) unquoted unescaped) letters⟩

theorem skipText_eq_ok {left rest : List Char} :
    skipText left = .ok rest ↔ ∃ units, Letters left units rest :=
  ⟨skipTextFrom_sound, fun ⟨_, letters⟩ => letters.skipTextFrom_eq _ (Nat.lt_succ_self _)⟩

/-! ## Numbers -/

/-- What may follow the digits of a number. -/
def Stops (rest : List Char) : Prop :=
  ∀ c ∈ rest.head?, c.isDigit = false

theorem Delimited.head {rest : List Char} (delimited : Delimited rest) {c : Char}
    (heads : c ∈ rest.head?) : c.isDigit = false ∧ c ≠ '.' ∧ c ≠ 'e' ∧ c ≠ 'E' := by
  rcases delimited c heads with blank | rfl | rfl | rfl
  · rcases isBlank_iff.mp blank with rfl | rfl | rfl | rfl <;> decide
  all_goals decide

theorem takeDigits_append {digits rest : List Char} (are : ∀ digit ∈ digits, digit.isDigit = true)
    (stops : Stops rest) : takeDigits (digits ++ rest) = (digits, rest) := by
  rw [takeDigits, List.takeWhile_append_of_pos are, List.dropWhile_append_of_pos are]
  cases rest with
  | nil => simp
  | cons c rest =>
      have other : c.isDigit = false := stops c rfl
      simp [other]

theorem takeDigits_eq {left digits rest : List Char} (taken : takeDigits left = (digits, rest)) :
    left = digits ++ rest ∧ ∀ digit ∈ digits, digit.isDigit = true := by
  cases taken
  exact ⟨List.takeWhile_append_dropWhile.symm, List.all_eq_true.mp List.all_takeWhile⟩

/-- Digits are told from the end of a text and from anything else by the first of them. -/
theorem AreDigits.head {digits : List Char} (are : AreDigits digits) :
    ∃ digit others, digits = digit :: others ∧ digit.isDigit = true := by
  cases digits with
  | nil => exact absurd rfl are.1
  | cons digit others => exact ⟨digit, others, rfl, are.2 digit (.head _)⟩

section Scans

variable {text point mark rest : List Char}

theorem WholeDigits.scanWhole_eq {digits : List Char} (whole : WholeDigits text digits rest)
    (stops : Stops rest) (atEnd : Cause) : scanWhole atEnd text = .ok (digits, rest) := by
  cases whole with
  | zero =>
      cases rest with
      | nil => simp [scanWhole]
      | cons c rest => simp [scanWhole, stops c rfl]
  | digits are leading =>
      have taken := takeDigits_append are.2 stops
      obtain ⟨digit, others, rfl, isDigit⟩ := are.head
      have unequal : digit ≠ '0' := by simpa using leading
      rw [List.cons_append] at taken ⊢
      simp [scanWhole, unequal, isDigit, taken]

theorem scanWhole_sound {atEnd : Cause} {digits : List Char}
    (scans : scanWhole atEnd text = .ok (digits, rest)) : WholeDigits text digits rest := by
  unfold scanWhole at scans
  split at scans
  · simp [refuse] at scans
  · next c behind =>
    split at scans
    · next same =>
      subst same
      split at scans
      · cases scans
        exact .zero
      · split at scans
        · simp [refuseNext] at scans
        · cases scans
          exact .zero
    · next unequal =>
      split at scans
      · next isDigit =>
        obtain ⟨same, are⟩ := takeDigits_eq (Except.ok.inj scans)
        rw [same]
        have filled : digits.head? = some c := by
          cases digits with
          | nil =>
              have taken := congrArg Prod.fst (Except.ok.inj scans)
              simp [takeDigits, isDigit] at taken
          | cons digit others =>
              rw [List.cons_append] at same
              simp [(List.cons.inj same).1]
        refine .digits ⟨?_, are⟩ (by simpa [filled] using unequal)
        rintro rfl
        simp at filled
      · simp [refuseNext] at scans

theorem Fraction.scanFraction_eq {digits : Option (List Char)}
    (fraction : Fraction text digits rest) (stops : Stops rest)
    (noPoint : ∀ c ∈ rest.head?, c ≠ '.') (atEnd : Cause) :
    scanFraction atEnd text = .ok (digits, rest) := by
  cases fraction with
  | none =>
      unfold scanFraction
      split
      · next behind => exact absurd rfl (noPoint '.' rfl)
      · rfl
  | some are =>
      have taken := takeDigits_append are.2 stops
      obtain ⟨digit, others, rfl, isDigit⟩ := are.head
      simp only [scanFraction, taken]

theorem scanFraction_sound {atEnd : Cause} {digits : Option (List Char)}
    (scans : scanFraction atEnd text = .ok (digits, rest)) : Fraction text digits rest := by
  unfold scanFraction at scans
  split at scans
  · split at scans
    · simp [refuse] at scans
    · simp [refuseNext] at scans
    · next filled taken =>
      cases scans
      obtain ⟨rfl, are⟩ := takeDigits_eq taken
      exact .some ⟨filled, are⟩
  · cases scans
    exact .none

/-- A sign is told from the digit it stands before. -/
theorem ExponentSign.takeSign_eq {negative : Bool} {digit : Char}
    (sign : ExponentSign text negative (digit :: rest)) (isDigit : digit.isDigit = true) :
    takeSign text = (negative, digit :: rest) := by
  cases sign with
  | none =>
      unfold takeSign
      split
      · next same =>
        cases same
        simp at isDigit
      · next same =>
        cases same
        simp at isDigit
      · rfl
  | plus | minus => rfl

theorem takeSign_sound {negative : Bool} (takes : takeSign text = (negative, rest)) :
    ExponentSign text negative rest := by
  unfold takeSign at takes
  split at takes <;> cases takes
  · exact .plus
  · exact .minus
  · exact .none

theorem Exponent.scanExponent_eq {parts : Option (Bool × List Char)}
    (exponent : Exponent text parts rest) (delimited : Delimited rest) (atEnd : Cause) :
    scanExponent atEnd text = .ok (parts, rest) := by
  cases exponent with
  | none =>
      cases text with
      | nil => rfl
      | cons c rest =>
          obtain ⟨_, _, small, big⟩ := delimited.head (c := c) rfl
          simp [scanExponent, small, big]
  | some marked sign are =>
      have taken := takeDigits_append are.2 fun _ heads => (delimited.head heads).1
      obtain ⟨digit, others, rfl, isDigit⟩ := are.head
      have signs := sign.takeSign_eq isDigit
      simp only [List.cons_append] at taken
      simp [scanExponent, marked, signs, taken]

theorem scanExponent_sound {atEnd : Cause} {parts : Option (Bool × List Char)}
    (scans : scanExponent atEnd text = .ok (parts, rest)) : Exponent text parts rest := by
  unfold scanExponent at scans
  split at scans
  · cases scans
    exact .none
  · next c behind =>
    split at scans
    · next marked =>
      have sign : ExponentSign behind (takeSign behind).1 (takeSign behind).2 :=
        takeSign_sound rfl
      simp only at scans
      split at scans
      · simp [refuse] at scans
      · simp [refuseNext] at scans
      · next filled taken =>
        cases scans
        obtain ⟨same, are⟩ := takeDigits_eq taken
        rw [same] at sign
        exact .some (by simpa using marked) sign ⟨filled, are⟩
    · cases scans
      exact .none

/-- What is scanned before a point or an exponent ends there. -/
theorem Exponent.head {parts : Option (Bool × List Char)} (exponent : Exponent text parts rest)
    (delimited : Delimited rest) {c : Char} (heads : c ∈ text.head?) :
    c.isDigit = false ∧ c ≠ '.' := by
  cases exponent with
  | none => exact ⟨(delimited.head heads).1, (delimited.head heads).2.1⟩
  | some marked sign are =>
      cases heads
      rcases marked with rfl | rfl <;> decide

theorem Fraction.stops {digits : Option (List Char)} (fraction : Fraction text digits rest)
    (stops : Stops rest) : Stops text := by
  cases fraction with
  | none => exact stops
  | some are =>
      intro c heads
      cases heads
      decide

/-- The parts of a number behind its sign are scanned one after the other. -/
theorem scanParts_eq {digits : List Char} {fraction : Option (List Char)}
    {exponent : Option (Bool × List Char)} (before : WholeDigits text digits point)
    (behind : Fraction point fraction mark) (scaled : Exponent mark exponent rest)
    (delimited : Delimited rest) (atEnd : Cause) :
    scanWhole atEnd text = .ok (digits, point) ∧ scanFraction atEnd point = .ok (fraction, mark) ∧
      scanExponent atEnd mark = .ok (exponent, rest) := by
  have marked : Stops mark := fun _ heads => (scaled.head delimited heads).1
  exact ⟨before.scanWhole_eq (behind.stops marked) atEnd,
    behind.scanFraction_eq marked (fun _ heads => (scaled.head delimited heads).2) atEnd,
    scaled.scanExponent_eq delimited atEnd⟩

/-- A number is scanned to its end. -/
theorem NumberText.scanNumeral_eq {numeral : Numeral} (number : NumberText text numeral rest)
    (delimited : Delimited rest) (atEnd : Cause) :
    scanNumeral atEnd text = .ok (numeral, rest) := by
  cases number with
  | positive before behind scaled =>
      obtain ⟨whole, fraction, exponent⟩ := scanParts_eq before behind scaled delimited atEnd
      have unsigned : ∀ more, text ≠ '-' :: more := by
        rintro more rfl
        simp [scanWhole, refuseNext] at whole
      unfold scanNumeral
      split
      next negative left signs =>
      split at signs
      · next more => exact absurd rfl (unsigned more)
      · cases signs
        simp [whole, fraction, exponent, bind, Except.bind]
  | negative before behind scaled =>
      obtain ⟨whole, fraction, exponent⟩ := scanParts_eq before behind scaled delimited atEnd
      simp [scanNumeral, whole, fraction, exponent, bind, Except.bind]

theorem scanNumeral_sound {atEnd : Cause} {numeral : Numeral}
    (scans : scanNumeral atEnd text = .ok (numeral, rest)) : NumberText text numeral rest := by
  unfold scanNumeral at scans
  split at scans
  next negative left signs =>
  obtain ⟨⟨digits, point⟩, whole, scans⟩ := bind_eq_ok.mp scans
  obtain ⟨⟨behind, mark⟩, fraction, scans⟩ := bind_eq_ok.mp scans
  obtain ⟨⟨parts, last⟩, exponent, scans⟩ := bind_eq_ok.mp scans
  cases scans
  have one := scanWhole_sound whole
  have two := scanFraction_sound fraction
  have three := scanExponent_sound exponent
  split at signs
  · cases signs
    exact .negative one two three
  · cases signs
    exact .positive one two three

end Scans

end Storefront.Json
