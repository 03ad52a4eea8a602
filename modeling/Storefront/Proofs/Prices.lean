import Storefront.Proofs.Spellings

/-!
# Prices

The price of a record is a number of sixty-four signed bits. `Sku.prices_exact` says that it is read
exactly or not at all: of all the decimals that can be written for it, a record takes those that are
whole, have no exponent and are not too large, each as the number it stands for, and any other fails
the whole answer that the record is part of.
-/

namespace Storefront.Json

/-! ## Parts of a value -/

section Parts

variable {text rest : List Char} {first : Bool}

/-- Every item of a list is spelled. -/
theorem Items.spells_of_mem {items : List Value} (inside : Items first text items rest)
    {item : Value} (among : item ∈ items) : ∃ start next, Spells start item next := by
  induction items generalizing first text with
  | nil => simp at among
  | cons one items inductionHypothesis =>
      cases inside with
      | item begins spells others =>
          rcases List.mem_cons.mp among with rfl | further
          · exact ⟨_, _, spells⟩
          · exact inductionHypothesis others further

/-- Every member of an object is spelled. -/
theorem Members.spells_of_mem {members : List (Storefront.Text.Units × Value)}
    (inside : Members first text members rest) {member : Storefront.Text.Units × Value}
    (among : member ∈ members) : ∃ start next, Spells start member.2 next := by
  induction members generalizing first text with
  | nil => simp at among
  | cons one members inductionHypothesis =>
      cases inside with
      | member begins named before after spells others =>
          rcases List.mem_cons.mp among with rfl | further
          · exact ⟨_, _, spells⟩
          · exact inductionHypothesis others further

end Parts

theorem forall₂_getElem? {α β : Type} {related : α → β → Prop} {items : List α} {results : List β}
    (each : List.Forall₂ related items results) {index : Nat} {item : α}
    (there : items[index]? = some item) :
    ∃ result, results[index]? = some result ∧ related item result := by
  obtain ⟨within, rfl⟩ := List.getElem?_eq_some_iff.mp there
  have behind : index < results.length := each.length_eq ▸ within
  exact ⟨results[index], List.getElem?_eq_getElem behind, each.get within behind⟩

end Storefront.Json

namespace Storefront.Billing

open Json
open Storefront.Text (Units)

/-- An answer has the records that its list is read as. -/
theorem Reply.read_details_eq_some {result : Result} {list : String} {details : List Sku} :
    (Reply.read ⟨result, some list⟩).1.details = some details ↔
      Sku.decodeList list = .ok details := by
  cases all : Sku.decodeList list <;> simp [Reply.read, all, Response.malformed]

namespace Sku

/-- A record with a place for its price: under the key for it in an object, or as the sixth item of
a list. -/
inductive Pricing : (Json.Value → Json.Value) → Prop where
  | member (before after : List (Units × Json.Value)) :
      Pricing fun price =>
        .object (before ++ (Units.encode "price_amount_micros", price) :: after)
  | item (sku kind title description words : Json.Value) (after : List Json.Value) :
      Pricing fun price => .list (sku :: kind :: title :: description :: words :: price :: after)

/-! ## The sense of a record by its price -/

variable {sku : Sku} {price other : Json.Value}

theorem sense_iff {value : Json.Value} :
    shape.Sense senses value sku ↔
      (∃ items, value = .list items ∧ Listed members senses items sku.toRow) ∨
        ∃ given, value = .object (encodeKeys given) ∧
          Settled members senses (Slots.empty members) given sku.toRow := by
  constructor
  · rintro ⟨row, rfl, sense⟩
    exact sense
  · exact fun sense => ⟨sku.toRow, rfl, sense⟩

/-- A record that a price is given for is the record without one, and that price. -/
theorem settled_price {given : List (String × Json.Value)} :
    Settled members senses (Slots.empty members) (("price_amount_micros", price) :: given)
        sku.toRow ↔
      IsInteger price sku.priceAmountMicros ∧
        Member.among (.optional "price_amount_micros" readInteger 0) given = [] ∧
        Settled members senses (Slots.empty members) given
          { sku with priceAmountMicros := 0 }.toRow := by
  constructor
  · rintro ⟨sku, kind, title, description, words, micros, currency, period, -⟩
    obtain ⟨-, meaning, none⟩ := (Member.settles_own rfl).mp micros
    exact ⟨meaning, none, (Member.settles_other rfl).mp sku, (Member.settles_other rfl).mp kind,
      (Member.settles_other rfl).mp title, (Member.settles_other rfl).mp description,
      (Member.settles_other rfl).mp words, .inr ⟨none, rfl⟩, (Member.settles_other rfl).mp currency,
      (Member.settles_other rfl).mp period, trivial⟩
  · rintro ⟨meaning, none, sku, kind, title, description, words, -, currency, period, -⟩
    exact ⟨(Member.settles_other rfl).mpr sku, (Member.settles_other rfl).mpr kind,
      (Member.settles_other rfl).mpr title, (Member.settles_other rfl).mpr description,
      (Member.settles_other rfl).mpr words, (Member.settles_own rfl).mpr ⟨rfl, meaning, none⟩,
      (Member.settles_other rfl).mpr currency, (Member.settles_other rfl).mpr period, trivial⟩

namespace Pricing

variable {record : Json.Value → Json.Value}

/-- A record has the price that stands in its place, and would have any other. -/
theorem sense (priced : Pricing record) (sense : shape.Sense senses (record price) sku) :
    IsInteger price sku.priceAmountMicros ∧ ∀ other number, IsInteger other number →
      shape.Sense senses (record other) { sku with priceAmountMicros := number } := by
  cases priced with
  | member before after =>
      obtain ⟨items, same, -⟩ | ⟨given, same, settled⟩ := sense_iff.mp sense
      · cases same
      · obtain ⟨front, _, rfl, rfl, more⟩ := List.map_eq_append_iff.mp (Value.object.inj same).symm
        obtain ⟨⟨key, item⟩, back, rfl, here, rfl⟩ := List.map_eq_cons_iff.mp more
        simp only [Prod.mk.injEq, Units.encode_injective.eq_iff] at here
        obtain ⟨rfl, rfl⟩ := here
        have first := (settled_perm List.perm_middle).mp settled
        obtain ⟨meaning, alone, rest⟩ := settled_price.mp first
        refine ⟨meaning, fun other number meaning => sense_iff.mpr (.inr ?_)⟩
        exact ⟨front ++ ("price_amount_micros", other) :: back, by simp [encodeKeys],
          (settled_perm List.perm_middle).mpr (settled_price.mpr ⟨meaning, alone, rest⟩)⟩
  | item =>
      obtain ⟨items, same, listed⟩ | ⟨given, same, -⟩ := sense_iff.mp sense
      · cases same
        obtain ⟨sku, kind, title, description, words, micros, rest⟩ := listed
        refine ⟨micros, fun other number meaning => sense_iff.mpr (.inl ⟨_, rfl, ?_⟩)⟩
        exact ⟨sku, kind, title, description, words, meaning, rest⟩
      · cases same

/-- A number that stands for a price is spelled. -/
theorem exists_numberText (priced : Pricing record) {text : List Char} {numeral : Numeral}
    (document : Document text (record (.number numeral))) :
    ∃ start next, NumberText start numeral next := by
  obtain ⟨_, _, -, spells, -⟩ := document
  have spelled : ∃ start next, Spells start (.number numeral) next := by
    cases priced with
    | member before after =>
        cases spells with
        | object inside => exact inside.spells_of_mem (List.mem_append_right _ (.head _))
    | item =>
        cases spells with
        | list inside => exact inside.spells_of_mem (by simp)
  obtain ⟨start, next, spells⟩ := spelled
  cases spells with
  | number written => exact ⟨start, next, written⟩

end Pricing

/-- Prices are read exactly or not at all. A record that is read with something for its price is
read with a number in that place if and only if the number is written as one of sixty-four signed
bits. Then its price is what the number stands for, and nothing else in the record is different. An
answer that lists the record has it so, and is an error if the record is not read. -/
theorem prices_exact {record : Json.Value → Json.Value} (priced : Pricing record)
    {plain text : String} {numeral : Numeral} (whole : Document plain.toList (record other))
    (valid : decode plain = .ok sku) (document : Document text.toList (record (.number numeral))) :
    ((∃ read, decode text = .ok read) ↔ numeral.IsExact) ∧
    (∀ read, decode text = .ok read → read.priceAmountMicros = numeral.value ∧
      read = { sku with priceAmountMicros := read.priceAmountMicros }) ∧
    ∀ (result : Result) (list : String) (items : List Json.Value) (index : Nat),
      Document list.toList (.list items) → items[index]? = some (record (.number numeral)) →
      (¬ numeral.IsExact → ∃ reason, (Reply.read ⟨result, some list⟩).1 =
        ⟨⟨.error, "malformed sku details: " ++ reason⟩, none⟩) ∧
      ∀ details, (Reply.read ⟨result, some list⟩).1.details = some details →
        ∃ read, details[index]? = some read ∧ decode text = .ok read := by
  obtain ⟨start, next, written⟩ := priced.exists_numberText document
  obtain ⟨before, others⟩ := priced.sense ((reads.readDocument_value whole).mp valid)
  have accepted : (∃ read, decode text = .ok read) ↔ numeral.IsExact := by
    constructor
    · rintro ⟨read, reads⟩
      have sense := (Sku.reads.readDocument_value document).mp reads
      exact ((isInteger_iff written).mp (priced.sense sense).1).1
    · intro exact
      obtain ⟨number, same⟩ := exact.exists_eq
      have meaning := (isInteger_iff written).mpr ⟨exact, same⟩
      exact ⟨_, (reads.readDocument_value document).mpr (others _ number meaning)⟩
  refine ⟨accepted, ?_, ?_⟩
  · intro read reads
    have sense := (Sku.reads.readDocument_value document).mp reads
    obtain ⟨meaning, again⟩ := priced.sense sense
    refine ⟨((isInteger_iff written).mp meaning).2.symm, ?_⟩
    -- With the first price put back, it is the record that was read before.
    have same := (Sku.reads.readDocument_value whole).mpr (again _ _ before)
    rw [Except.ok.inj (valid.symm.trans same)]
  · intro result list items index listed there
    have alone {details} (all : decodeList list = .ok details) :
        ∃ read, details[index]? = some read ∧ decode text = .ok read := by
      obtain ⟨read, among, sense⟩ := forall₂_getElem? ((decodeList_eq_ok listed).mp all) there
      exact ⟨read, among, (reads.readDocument_value document).mpr sense⟩
    refine ⟨fun inexact => ?_, fun details has => alone (Reply.read_details_eq_some.mp has)⟩
    cases all : decodeList list with
    | error refusal => exact ⟨refusal.message, by simp [Reply.read, all, Response.malformed]⟩
    | ok details =>
        obtain ⟨read, -, reads⟩ := alone all
        exact absurd (accepted.mp ⟨read, reads⟩) inexact

/-- A record without any texts, as a list. -/
def wordless (price : Json.Value) : Json.Value :=
  .list [.text [], .text [], .text [], .text [], .text [], price, .text []]

/-- The least price is read, and one more than the most fails the answer it is part of. -/
theorem prices_exact_limits :
    (∃ read, decode "[\"\",\"\",\"\",\"\",\"\",-9223372036854775808,\"\"]" = .ok read ∧
      read.priceAmountMicros = -2 ^ 63) ∧
    ∃ reason, (Reply.read ⟨⟨.ok, ""⟩,
        some "[[\"\",\"\",\"\",\"\",\"\",9223372036854775808,\"\"]]"⟩).1 =
      ⟨⟨.error, "malformed sku details: " ++ reason⟩, none⟩ := by
  have priced : Pricing wordless := .item _ _ _ _ _ _
  have spells {number numeral rest}
      (written : NumberText number numeral (",\"\"]".toList ++ rest)) :
      Spells ("[\"\",\"\",\"\",\"\",\"\",".toList ++ number) (wordless (.number numeral)) rest :=
    .list (.item (.first .refl) (.text .close) (.item (.further .refl .refl) (.text .close)
      (.item (.further .refl .refl) (.text .close) (.item (.further .refl .refl) (.text .close)
      (.item (.further .refl .refl) (.text .close) (.item (.further .refl .refl) (.number written)
      (.item (.further .refl .refl) (.text .close) (.close .refl))))))))
  have plain : Document "[\"\",\"\",\"\",\"\",\"\",0,\"\"]".toList
      (wordless (.number (.ofInt 0))) := ⟨_, _, .refl, spells (numberText_ofInt 0 _), .refl⟩
  constructor
  · have document : Document "[\"\",\"\",\"\",\"\",\"\",-9223372036854775808,\"\"]".toList
        (wordless (.number (.ofInt (-2 ^ 63)))) :=
      ⟨_, _, .refl, spells (numberText_ofInt (-2 ^ 63) _), .refl⟩
    have exact : (Numeral.ofInt (-2 ^ 63)).IsExact :=
      ((isInteger_iff (numberText_ofInt (-2 ^ 63) [])).mp
        (isInteger_ofInt (by decide) (by decide))).1
    obtain ⟨accepted, same, -⟩ := prices_exact priced plain rfl document
    obtain ⟨read, reads⟩ := accepted.mpr exact
    have value := (same read reads).1
    rw [Numeral.value_ofInt] at value
    exact ⟨read, reads, by exact_mod_cast value⟩
  · have document : Document "[\"\",\"\",\"\",\"\",\"\",9223372036854775808,\"\"]".toList
        (wordless (.number (.ofInt (2 ^ 63)))) :=
      ⟨_, _, .refl, spells (numberText_ofInt (2 ^ 63) _), .refl⟩
    have list : Document "[[\"\",\"\",\"\",\"\",\"\",9223372036854775808,\"\"]]".toList
        (.list [wordless (.number (.ofInt (2 ^ 63)))]) :=
      ⟨_, _, .refl, .list (.item (.first .refl) (spells (numberText_ofInt (2 ^ 63) _))
        (.close .refl)), .refl⟩
    have inexact : ¬ (Numeral.ofInt (2 ^ 63)).IsExact := by
      intro exact
      have most := exact.most
      rw [Numeral.value_ofInt] at most
      norm_num at most
    exact ((prices_exact priced plain rfl document).2.2 _ _ _ 0 list rfl).1 inexact

end Sku

end Storefront.Billing
