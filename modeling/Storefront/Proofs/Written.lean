import Storefront.Catalog.Platform

/-!
# Written values read back

`ReadsBack` says that a reader takes a written value off the front of any text and leaves what
follows. Texts read back, lists and records do if their parts do, and so `Platform.decode_encode`
needs nothing but the members of an offer.
-/

namespace Storefront.Json

/-- What may follow a value: the end of the text, or what separates or closes values. -/
def Ends (rest : List Char) : Prop :=
  ∀ c ∈ rest.head?, c = ',' ∨ c = ']' ∨ c = '\x7d'

/-- A reader takes a written value off the front and leaves what follows. -/
def ReadsBack {α : Type} (read : Reader α) (written : List Char) (value : α) : Prop :=
  ∀ rest, Ends rest → read (written ++ rest) = .ok (value, rest)

theorem Ends.nil : Ends [] := by simp [Ends]

theorem skipBlanks_cons {c : Char} (solid : isBlank c = false) (rest : List Char) :
    skipBlanks (c :: rest) = c :: rest := by
  simp [skipBlanks, solid]

/-! ## Texts -/

theorem hexValue?_hexDigit {value : Nat} (small : value < 16) :
    hexValue? (hexDigit value) = some value := by
  have each : ∀ digit : Fin 16, hexValue? (hexDigit digit) = some digit.val := by decide
  exact each ⟨value, small⟩

theorem readHexUnit_digits {value : Nat} (small : value < 256) (rest : List Char) :
    readHexUnit ('0' :: '0' :: hexDigit (value / 16) :: hexDigit (value % 16) :: rest) =
      .ok (value.toUInt16, rest) := by
  have zero : hexValue? '0' = some 0 := by decide
  have high : hexValue? (hexDigit (value / 16)) = some (value / 16) :=
    hexValue?_hexDigit (by omega)
  have low : hexValue? (hexDigit (value % 16)) = some (value % 16) :=
    hexValue?_hexDigit (Nat.mod_lt _ (by omega))
  have whole : ((0 * 16 + 0) * 16 + value / 16) * 16 + value % 16 = value := by omega
  have spelled : hexUnit? ['0', '0', hexDigit (value / 16), hexDigit (value % 16)] =
      some value.toUInt16 := by
    simp only [hexUnit?, zero, high, low, Option.bind_eq_bind, Option.bind_some,
      Option.pure_def, whole]
  simp only [readHexUnit, List.take_succ_cons, List.take_zero, spelled, List.drop_succ_cons,
    List.drop_zero]

/-- A control character is spelled by a unit that is no surrogate. -/
theorem readHexEscape_control {c : Char} (control : c < ' ') (rest : List Char) :
    readHexEscape ('0' :: '0' :: hexDigit (c.toNat / 16) :: hexDigit (c.toNat % 16) :: rest) =
      .ok (c, rest) := by
  have small : c.toNat < 32 := control
  have plain : ∀ value : Fin 32, Text.Units.isTrail value.val.toUInt16 = false ∧
      Text.Units.isLead value.val.toUInt16 = false := by decide
  have spelled : c.toNat.toUInt16.toNat = c.toNat := by
    rw [Nat.toUInt16_eq, UInt16.toNat_ofNat', Nat.mod_eq_of_lt (by omega)]
  obtain ⟨noTrail, noLead⟩ := plain ⟨c.toNat, small⟩
  simp only at noTrail noLead
  simp [readHexEscape, readHexUnit_digits (by omega : c.toNat < 256), bind, Except.bind, noTrail,
    noLead, spelled]

/-- A written character is read in one step. -/
theorem readTextFrom_writeChar (fuel : Nat) (seen : List Char) (c : Char) (rest : List Char) :
    readTextFrom (fuel + 1) seen (writeChar c ++ rest) = readTextFrom fuel (c :: seen) rest := by
  have escapes : ∀ code, escaped? code = some c →
      readTextFrom (fuel + 1) seen ('\\' :: code :: rest) =
        readTextFrom fuel (c :: seen) rest := by
    intro code spelled
    simp [readTextFrom, readEscape, spelled, bind, Except.bind]
  unfold writeChar
  split
  case isTrue same =>
    subst same
    exact escapes '"' rfl
  split
  case isTrue same =>
    subst same
    exact escapes '\\' rfl
  split
  case isTrue same => exact escapes 'b' (same ▸ rfl)
  split
  case isTrue same => exact escapes 'f' (same ▸ rfl)
  split
  case isTrue same => exact escapes 'n' (same ▸ rfl)
  split
  case isTrue same => exact escapes 'r' (same ▸ rfl)
  split
  case isTrue same => exact escapes 't' (same ▸ rfl)
  split
  case isTrue control =>
    have unnamed : escaped? 'u' = none := rfl
    simp [readTextFrom, readEscape, unnamed, readHexEscape_control control, bind, Except.bind]
  case isFalse unquoted unescaped _ _ _ _ _ printable =>
    simp [readTextFrom, unquoted, unescaped, printable]

theorem writeChar_pos (c : Char) : 0 < (writeChar c).length := by
  unfold writeChar
  repeat' split
  all_goals simp

/-- A text is read as it was written. -/
theorem readText_written (text : String) (rest : List Char) :
    readText (text.toList.flatMap writeChar ++ '"' :: rest) = .ok (text, rest) := by
  have reads : ∀ (chars seen : List Char) (fuel : Nat), (chars.flatMap writeChar).length < fuel →
      readTextFrom fuel seen (chars.flatMap writeChar ++ '"' :: rest) =
        .ok (String.ofList (seen.reverse ++ chars), rest) := by
    intro chars
    induction chars with
    | nil =>
        intro seen fuel enough
        obtain ⟨fuel, rfl⟩ : ∃ more, fuel = more + 1 := Nat.exists_eq_succ_of_ne_zero (by omega)
        simp [readTextFrom]
    | cons c chars inductionHypothesis =>
        intro seen fuel enough
        have progress := writeChar_pos c
        rw [List.flatMap_cons, List.length_append] at enough
        obtain ⟨fuel, rfl⟩ : ∃ more, fuel = more + 1 := Nat.exists_eq_succ_of_ne_zero (by omega)
        rw [List.flatMap_cons, List.append_assoc, readTextFrom_writeChar,
          inductionHypothesis _ _ (by omega)]
        simp
  rw [readText, reads _ _ _ (by simp only [List.length_append]; omega)]
  simp

theorem writeText_append (text : String) (rest : List Char) :
    writeText text ++ rest = '"' :: (text.toList.flatMap writeChar ++ '"' :: rest) := by
  simp [writeText]

theorem readString_writeText (text : String) : ReadsBack readString (writeText text) text := by
  intro rest _
  have solid : isBlank '"' = false := by decide
  simp only [readString, writeText_append, skipBlanks_cons solid]
  exact readText_written text rest

/-! ## Values behind each other -/

/-- Written values, separated from each other and, unless they come first, from what is before
them. -/
def writeFurther (first : Bool) (texts : List (List Char)) : List Char :=
  if first then writeSeparated texts else texts.flatMap (',' :: ·)

/-- What separates a value from what is before it. -/
def lead (first : Bool) : List Char :=
  if first then [] else [',']

theorem writeFurther_nil (first : Bool) : writeFurther first [] = [] := by
  cases first <;> rfl

theorem writeFurther_cons (first : Bool) (text : List Char) (texts : List (List Char)) :
    writeFurther first (text :: texts) = lead first ++ text ++ writeFurther false texts := by
  cases first with
  | false => simp [writeFurther, lead]
  | true =>
      induction texts generalizing text with
      | nil => simp [writeFurther, lead, writeSeparated]
      | cons next texts inductionHypothesis =>
          have rest := inductionHypothesis next
          simp only [writeFurther, lead, if_true, List.nil_append] at rest ⊢
          rw [writeSeparated, rest]
          · simp
          · simp

/-- A value ends where the next one or the closing bracket follows. -/
theorem ends_writeFurther (texts : List (List Char)) {close : Char} (rest : List Char)
    (closes : close = ']' ∨ close = '\x7d') :
    Ends (writeFurther false texts ++ close :: rest) := by
  cases texts with
  | nil => simpa [Ends, writeFurther] using .inr closes
  | cons text texts => simp [Ends, writeFurther]

/-- There are no more values than characters. -/
theorem length_le_writeFurther (first : Bool) {texts : List (List Char)}
    (solid : ∀ text ∈ texts, text ≠ []) : texts.length ≤ (writeFurther first texts).length := by
  induction texts generalizing first with
  | nil => simp
  | cons text texts inductionHypothesis =>
      have less := inductionHypothesis false fun other member => solid other (.tail _ member)
      have some := List.length_pos_iff.mpr (solid text (.head _))
      rw [writeFurther_cons, List.length_append, List.length_append, List.length_cons]
      omega

/-! ## Lists -/

/-- A written value that a list can tell from its own end. -/
def IsElement (text : List Char) : Prop :=
  ∃ c more, text = c :: more ∧ isBlank c = false ∧ c ≠ ']'

theorem nextElement_lead (first : Bool) {text : List Char} (element : IsElement text)
    (rest : List Char) :
    nextElement first (lead first ++ text ++ rest) = .ok (true, text ++ rest) := by
  obtain ⟨c, more, rfl, solid, inside⟩ := element
  have comma : isBlank ',' = false := by decide
  cases first <;> simp [nextElement, lead, skipBlanks_cons, solid, comma, inside]

theorem nextElement_end (first : Bool) (rest : List Char) :
    nextElement first (']' :: rest) = .ok (false, ']' :: rest) := by
  have bracket : isBlank ']' = false := by decide
  simp [nextElement, skipBlanks_cons bracket]

section Lists

variable {α : Type} {read : Reader α} {write : α → List Char}

/-- The elements that follow those seen are read one by one. -/
theorem readElements_written {values : List α}
    (back : ∀ value ∈ values, ReadsBack read (write value) value)
    (elements : ∀ value ∈ values, IsElement (write value)) (fuel : Nat)
    (enough : values.length < fuel) (seen : List α) (rest : List Char) :
    readElements read fuel seen
        (writeFurther seen.isEmpty (values.map write) ++ ']' :: rest) =
      .ok (seen.reverse ++ values, rest) := by
  induction values generalizing fuel seen with
  | nil =>
      obtain ⟨fuel, rfl⟩ : ∃ more, fuel = more + 1 := Nat.exists_eq_succ_of_ne_zero (by omega)
      have bracket : isBlank ']' = false := by decide
      simp [readElements, writeFurther_nil, nextElement_end, endList, skipBlanks_cons bracket,
        bind, Except.bind]
  | cons value values inductionHypothesis =>
      rw [List.length_cons] at enough
      obtain ⟨fuel, rfl⟩ : ∃ more, fuel = more + 1 := Nat.exists_eq_succ_of_ne_zero (by omega)
      have reads := back value (.head _) _ (ends_writeFurther (values.map write) rest (.inl rfl))
      have others := inductionHypothesis (fun other member => back other (.tail _ member))
        (fun other member => elements other (.tail _ member)) fuel (by omega) (value :: seen)
      rw [readElements, List.map_cons, writeFurther_cons, List.append_assoc,
        List.append_assoc, ← List.append_assoc, nextElement_lead _ (elements value (.head _))]
      simp only [bind, Except.bind, if_true, reads]
      simpa using others

/-- A list reads back if its elements do. -/
theorem readList_writeList {values : List α}
    (back : ∀ value ∈ values, ReadsBack read (write value) value)
    (elements : ∀ value ∈ values, IsElement (write value)) :
    ReadsBack (readList read) (writeList (values.map write)) values := by
  intro rest _
  have bracket : isBlank '[' = false := by decide
  have solid : ∀ text ∈ values.map write, text ≠ [] := by
    intro text member
    obtain ⟨value, among, rfl⟩ := List.mem_map.mp member
    obtain ⟨c, more, same, _⟩ := elements value among
    simp [same]
  have few := length_le_writeFurther true solid
  rw [List.length_map] at few
  have reads := readElements_written back elements
    ((writeFurther true (values.map write) ++ ']' :: rest).length + 1)
    (by rw [List.length_append]; omega) [] rest
  simp only [readList, writeList, List.cons_append, List.append_assoc, skipBlanks_cons bracket]
  simpa [writeFurther] using reads

end Lists

/-! ## Records -/

/-- Slots of which some are filled with the values of a row, and the written members that the
others wait for. -/
inductive Pending : (members : List Member) → Slots members → Row members →
    List (List Char) → Prop where
  | nil : Pending [] () () []
  | filled {member members slots row texts} {value : member.Value}
      (rest : Pending members slots row texts) :
      Pending (member :: members) (some value, slots) (value, row) texts
  | ahead {member members slots row texts written} {value : member.Value}
      (back : ReadsBack member.read written value) (rest : Pending members slots row texts) :
      Pending (member :: members) (none, slots) (value, row)
        (writeMember member.key written :: texts)

/-- No key of a member names one before it. -/
def AreDistinct (members : List Member) : Prop :=
  members.Pairwise fun earlier later => earlier.answersTo later.key = false

theorem Member.answersTo_key (member : Member) : member.answersTo member.key = true := by
  simp [answersTo]

namespace Pending

variable {members : List Member} {slots : Slots members} {row : Row members}

/-- An object whose members were all read is complete. -/
theorem complete (pending : Pending members slots row []) (left : List Char) :
    Slots.complete members slots left = .ok row := by
  generalize nothing : ([] : List (List Char)) = texts at pending
  induction pending with
  | nil => rfl
  | filled rest inductionHypothesis =>
      simp [Slots.complete, bind, Except.bind, inductionHypothesis nothing]
  | ahead back rest inductionHypothesis => simp at nothing

/-- The next written member fills a slot. -/
theorem fill {text : List Char} {texts : List (List Char)} (distinct : AreDistinct members)
    (pending : Pending members slots row (text :: texts)) :
    ∃ key written, text = writeMember key written ∧ (∃ member ∈ members, member.key = key) ∧
      ∀ left, Ends left → ∃ filled, Pending members filled row texts ∧
        Slots.fill key members slots (':' :: (written ++ left)) = .ok (filled, left) := by
  generalize next : text :: texts = all at pending
  induction pending with
  | nil => simp at next
  | @filled member members slots row all value rest inductionHypothesis =>
      obtain ⟨apart, distinct⟩ := List.pairwise_cons.mp distinct
      obtain ⟨key, written, same, ⟨owner, among, named⟩, fills⟩ :=
        inductionHypothesis distinct next
      refine ⟨key, written, same, ⟨owner, .tail _ among, named⟩, fun left ends => ?_⟩
      obtain ⟨filled, pending, reads⟩ := fills left ends
      have foreign : member.answersTo key = false := named ▸ apart owner among
      exact ⟨(some value, filled), .filled pending,
        by simp [Slots.fill, foreign, bind, Except.bind, reads]⟩
  | @ahead member members slots row rest written value back pending inductionHypothesis =>
      obtain ⟨rfl, rfl⟩ := List.cons.inj next
      refine ⟨member.key, written, rfl, ⟨member, .head _, rfl⟩, fun left ends => ?_⟩
      have colon : isBlank ':' = false := by decide
      exact ⟨(some value, slots), .filled pending,
        by simp [Slots.fill, member.answersTo_key, demandColon, skipBlanks_cons colon, bind,
          Except.bind, back left ends]⟩

/-- There is nothing to read only if nothing is pending. -/
theorem solid {texts : List (List Char)} (pending : Pending members slots row texts) :
    ∀ text ∈ texts, text ≠ [] := by
  induction pending with
  | nil => simp
  | filled rest inductionHypothesis => exact inductionHypothesis
  | ahead back rest inductionHypothesis =>
      simpa [writeMember, writeText] using inductionHypothesis

end Pending

theorem nextKey_lead (first : Bool) (key : String) (written rest : List Char) :
    nextKey first (lead first ++ writeMember key written ++ rest) =
      .ok (some key, ':' :: (written ++ rest)) := by
  have comma : isBlank ',' = false := by decide
  have quote : isBlank '"' = false := by decide
  cases first <;>
    simp [nextKey, lead, writeMember, writeText, skipBlanks_cons, comma, quote, bind, Except.bind,
      readText_written]

theorem nextKey_end (first : Bool) (rest : List Char) :
    nextKey first ('\x7d' :: rest) = .ok (none, rest) := by
  have bracket : isBlank '\x7d' = false := by decide
  simp [nextKey, skipBlanks_cons bracket]

/-- The members that are pending are read one by one. -/
theorem readMembers_written {members : List Member} (distinct : AreDistinct members)
    {slots : Slots members} {row : Row members} {texts : List (List Char)}
    (pending : Pending members slots row texts) (first : Bool) (fuel : Nat)
    (enough : texts.length < fuel) (rest : List Char) :
    readMembers members fuel first slots (writeFurther first texts ++ '\x7d' :: rest) =
      .ok (row, rest) := by
  induction texts generalizing slots first fuel with
  | nil =>
      obtain ⟨fuel, rfl⟩ : ∃ more, fuel = more + 1 := Nat.exists_eq_succ_of_ne_zero (by omega)
      simp [readMembers, writeFurther_nil, nextKey_end, pending.complete, bind, Except.bind]
  | cons text texts inductionHypothesis =>
      rw [List.length_cons] at enough
      obtain ⟨fuel, rfl⟩ : ∃ more, fuel = more + 1 := Nat.exists_eq_succ_of_ne_zero (by omega)
      obtain ⟨key, written, rfl, ⟨member, among, named⟩, fills⟩ := pending.fill distinct
      obtain ⟨filled, others, fill⟩ := fills _ (ends_writeFurther texts rest (.inr rfl))
      have known : knows members key = true :=
        List.any_eq_true.mpr ⟨member, among, named ▸ member.answersTo_key⟩
      rw [readMembers, writeFurther_cons, List.append_assoc, nextKey_lead]
      simp only [bind, Except.bind, known, if_true, fill]
      exact inductionHypothesis others false fuel (by omega)

/-- A record reads back if its members do. -/
theorem Shape.read_writeObject {α : Type} (shape : Shape α) (distinct : AreDistinct shape.members)
    {row : Row shape.members} {texts : List (List Char)}
    (pending : Pending shape.members (Slots.empty shape.members) row texts) :
    ReadsBack shape.read (writeObject texts) (shape.build row) := by
  intro rest _
  have bracket : isBlank '\x7b' = false := by decide
  have few := length_le_writeFurther true pending.solid
  have reads := readMembers_written distinct pending true
    ((writeFurther true texts ++ '\x7d' :: rest).length + 1)
    (by rw [List.length_append]; omega) rest
  simp only [writeFurther, if_true] at reads
  simp only [Shape.read, writeObject, List.cons_append, List.append_assoc, List.nil_append,
    skipBlanks_cons bracket, bind, Except.bind, reads]

/-- A document that was written is read. -/
theorem readDocument_written {α : Type} {read : Reader α} {written : List Char} {value : α}
    (back : ReadsBack read written value) :
    readDocument read (String.ofList written) = .ok value := by
  have reads := back [] .nil
  rw [List.append_nil] at reads
  have whole : readWhole read written = .ok value := by
    simp [readWhole, reads, bind, Except.bind, skipBlanks]
  rw [readDocument, String.toList_ofList, whole]
  rfl

end Storefront.Json

namespace Storefront.Catalog

open Json

theorem Offer.reads_back (offer : Offer) : ReadsBack Offer.shape.read offer.write offer := by
  have distinct : AreDistinct Offer.members := by
    simp [AreDistinct, Offer.members, Member.answersTo, Member.required]
  exact Offer.shape.read_writeObject distinct
    (.ahead (readString_writeText offer.sku) (.ahead (readString_writeText offer.description)
      (.ahead (readString_writeText offer.displayPrice)
        (.ahead (readString_writeText offer.currencyCode) .nil))))

/-- A priced catalog is read as it was written. -/
theorem Platform.decode_encode (catalog : Platform) : decode catalog.encode = .ok catalog := by
  have distinct : AreDistinct Platform.members := List.pairwise_singleton ..
  have elements : ∀ offer ∈ catalog.products, IsElement offer.write :=
    fun offer _ => ⟨'\x7b', _, rfl, by decide, by decide⟩
  have products := readList_writeList (fun offer _ => Offer.reads_back offer) elements
  exact readDocument_written
    (Platform.shape.read_writeObject distinct (.ahead products .nil))

end Storefront.Catalog
