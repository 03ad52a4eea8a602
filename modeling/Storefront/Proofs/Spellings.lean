import Storefront.Proofs.Gathered
import Storefront.Proofs.Listings

/-!
# Spellings of a record

A service may write a record as it likes: its members in any order, the SKU under either key, a
member that has its default or not, and anything else in between. `Sku.IsMadeOf` says so, and
`Sku.decode_object` that a record is read from each such object, and that an object which lacks a
member, repeats one or gives a null for one is read as no record.
-/

namespace Storefront.Json

open Storefront.Text (Units)

/-! ## Order and strangers -/

section Orders

variable {given other : List (String × Json.Value)}

theorem perm_eq_nil (order : given.Perm other) : given = [] ↔ other = [] := by
  constructor
  · rintro rfl
    exact List.nil_perm.mp order
  · rintro rfl
    exact List.perm_nil.mp order

theorem perm_eq_singleton (order : given.Perm other) (entry : String × Value) :
    given = [entry] ↔ other = [entry] := by
  constructor
  · rintro rfl
    exact (List.singleton_perm.mp order).symm
  · rintro rfl
    exact List.perm_singleton.mp order

theorem Member.settles_perm {member : Member} {sense : Json.Value → member.Value → Prop}
    {slot : Option member.Value} {value : member.Value} (order : given.Perm other) :
    member.Settles sense slot given value ↔ member.Settles sense slot other value := by
  have among : (member.among given).Perm (member.among other) := order.filter _
  cases slot with
  | some known => simp only [Member.Settles, perm_eq_nil among]
  | none => simp only [Member.Settles, perm_eq_nil among, perm_eq_singleton among]

variable {members : List Member} {senses : Senses members} {slots : Slots members}
  {row : Row members}

/-- The order in which members are given does not matter. -/
theorem settled_perm (order : given.Perm other) :
    Settled members senses slots given row ↔ Settled members senses slots other row := by
  induction members with
  | nil => exact Iff.rfl
  | cons member members inductionHypothesis =>
      obtain ⟨sense, senses⟩ := senses
      obtain ⟨slot, slots⟩ := slots
      obtain ⟨value, row⟩ := row
      rw [Settled, Settled, Member.settles_perm order, inductionHypothesis]

/-- Members nobody asked for do not matter either. -/
theorem settled_strangers {strangers : List (String × Value)}
    (unknown : ∀ stranger ∈ strangers, knows members stranger.1 = false) :
    Settled members senses slots (strangers ++ given) row ↔
      Settled members senses slots given row := by
  induction strangers with
  | nil => exact Iff.rfl
  | cons stranger strangers inductionHypothesis =>
      rw [List.cons_append, settled_unknown (unknown stranger (.head _)),
        inductionHypothesis fun other among => unknown other (.tail _ among)]

end Orders

/-! ## Members in the order of the description -/

/-- A row whose members are given in order, each under one of its keys, or left to its fallback. -/
inductive Given : (members : List Member) → Senses members → List (String × Value) →
    Row members → Prop where
  | nil : Given [] () [] ()
  | here {member members senses key item given row}
      {sense : Json.Value → member.Value → Prop} {value : member.Value}
      (named : member.answersTo key = true) (meaning : sense item value)
      (others : Given members senses given row) :
      Given (member :: members) (sense, senses) ((key, item) :: given) (value, row)
  | left {member members senses given row}
      {sense : Json.Value → member.Value → Prop} {value : member.Value}
      (absent : member.fallback = some value) (others : Given members senses given row) :
      Given (member :: members) (sense, senses) given (value, row)

namespace Given

variable {members : List Member} {senses : Senses members} {given : List (String × Value)}
  {row : Row members}

theorem knows (all : Given members senses given row) :
    ∀ other ∈ given, Json.knows members other.1 = true := by
  induction all with
  | nil => simp
  | here named meaning others inductionHypothesis =>
      intro other among
      rcases List.mem_cons.mp among with rfl | further
      · simp [knows_cons, named]
      · simp [knows_cons, inductionHypothesis other further]
  | left absent others inductionHypothesis =>
      intro other among
      simp [knows_cons, inductionHypothesis other among]

/-- None of what is given for later members is given for an earlier one. -/
theorem among_nil {member : Member} (apart : AreApart (member :: members))
    (all : Given members senses given row) : member.among given = [] := by
  refine List.filter_eq_nil_iff.mpr fun other among own => ?_
  have known := all.knows other among
  rw [knows_apart apart own] at known
  exact Bool.noConfusion known

/-- Members that are given in order are settled. -/
theorem settled (apart : AreApart members) (all : Given members senses given row) :
    Settled members senses (Slots.empty members) given row := by
  induction all with
  | nil => trivial
  | here named meaning others inductionHypothesis =>
      have rest := inductionHypothesis (List.pairwise_cons.mp apart).2
      exact ⟨(Member.settles_own named).mpr ⟨rfl, meaning, others.among_nil apart⟩,
        (settled_unknown (knows_apart apart named)).mpr rest⟩
  | left absent others inductionHypothesis =>
      exact ⟨.inr ⟨others.among_nil apart, absent⟩,
        inductionHypothesis (List.pairwise_cons.mp apart).2⟩

end Given

/-! ## What no row is settled by -/

/-- No member takes a null. -/
def Senses.RefuseNull : (members : List Member) → Senses members → Prop
  | [], _ => True
  | _ :: members, (sense, senses) =>
      (∀ value, ¬ sense .null value) ∧ Senses.RefuseNull members senses

namespace Member

variable {member : Member} {sense : Json.Value → member.Value → Prop} {value : member.Value}
  {given : List (String × Json.Value)}

/-- A required member has no other key than its own. -/
theorem answersTo_required {α : Type} {read : Reader α} {name key : String} :
    (Member.required name read).answersTo key = true ↔ key = name := by
  refine Bool.or_eq_true_iff.trans ?_
  rw [decide_eq_true_iff]
  simp [Member.required]

/-- A member is given once at most. -/
theorem Settles.length_le (settles : member.Settles sense none given value) :
    (member.among given).length ≤ 1 := by
  rcases settles with ⟨key, item, one, -⟩ | ⟨none, -⟩
  · simp [one]
  · simp [none]

/-- A member without a fallback is given. -/
theorem Settles.exists_given (settles : member.Settles sense none given value)
    (required : member.fallback = none) : ∃ other ∈ given, member.answersTo other.1 = true := by
  rcases settles with ⟨key, item, one, -⟩ | ⟨-, absent⟩
  · have among : (key, item) ∈ member.among given := by simp [one]
    obtain ⟨there, own⟩ := List.mem_filter.mp among
    exact ⟨_, there, own⟩
  · simp [required] at absent

/-- Nothing else is given for a member than one entry. -/
theorem Settles.unique (settles : member.Settles sense none given value)
    {one other : String × Json.Value} (first : one ∈ given) (second : other ∈ given)
    (own : member.answersTo one.1 = true) (also : member.answersTo other.1 = true) :
    one = other := by
  have here : one ∈ member.among given := List.mem_filter.mpr ⟨first, own⟩
  have there : other ∈ member.among given := List.mem_filter.mpr ⟨second, also⟩
  rcases settles with ⟨key, item, only, -⟩ | ⟨none, -⟩
  · rw [only, List.mem_singleton] at here there
    rw [here, there]
  · simp [none] at here

theorem Settles.not_null (settles : member.Settles sense none given value)
    (refuses : ∀ value, ¬ sense .null value) {key : String} (own : member.answersTo key = true) :
    (key, .null) ∉ given := by
  intro there
  have among : (key, .null) ∈ member.among given := List.mem_filter.mpr ⟨there, own⟩
  rcases settles with ⟨name, item, one, meaning⟩ | ⟨none, -⟩
  · obtain ⟨rfl, rfl⟩ : key = name ∧ Json.Value.null = item := by simpa [one] using among
    exact refuses _ meaning
  · simp [none] at among

end Member

/-- Every member of a row is settled. -/
theorem Settled.settles {members : List Member} {senses : Senses members}
    {given : List (String × Value)} {row : Row members}
    (settled : Settled members senses (Slots.empty members) given row)
    (refuse : senses.RefuseNull) {member : Member} (among : member ∈ members) :
    ∃ (sense : Value → member.Value → Prop) (value : member.Value),
      (∀ value, ¬ sense .null value) ∧ member.Settles sense none given value := by
  induction members with
  | nil => simp at among
  | cons first members inductionHypothesis =>
      obtain ⟨sense, senses⟩ := senses
      obtain ⟨value, row⟩ := row
      rcases List.mem_cons.mp among with rfl | further
      · exact ⟨sense, value, refuse.1, settled.1⟩
      · exact inductionHypothesis settled.2 refuse.2 further

end Storefront.Json

namespace Storefront.Billing.Sku

open Json
open Storefront.Text (Units)

/-- The keys of a record's members, of which the first two are those of the SKU. -/
def keys : List String :=
  ["productId", "sku", "type", "title", "description", "price", "price_amount_micros",
    "price_currency_code", "subscriptionPeriod"]

/-- The keys of which an object has to have one. -/
def required : List (List String) :=
  [["productId", "sku"], ["price"], ["price_currency_code"]]

/-- A member of a record as it is written, and whether it may be left out. -/
structure Part where
  key : String
  value : Json.Value
  isDefault : Bool

/-- The parts of a record, with its SKU under one of the keys. -/
def parts (sku : Sku) (name : String) : List Part := [
  ⟨name, .text (Units.encode sku.sku), false⟩,
  ⟨"type", .text (Units.encode sku.skuType), sku.skuType = ""⟩,
  ⟨"title", .text (Units.encode sku.title), sku.title = ""⟩,
  ⟨"description", .text (Units.encode sku.description), sku.description = ""⟩,
  ⟨"price", .text (Units.encode sku.price), false⟩,
  ⟨"price_amount_micros", .number (.ofInt sku.priceAmountMicros), sku.priceAmountMicros = 0⟩,
  ⟨"price_currency_code", .text (Units.encode sku.priceCurrencyCode), false⟩,
  ⟨"subscriptionPeriod", .text (Units.encode sku.subscriptionPeriod), sku.subscriptionPeriod = ""⟩]

/-- What is written of some parts, of which those with their default may be left out. -/
inductive Keeps : List Part → List (String × Json.Value) → Prop where
  | nil : Keeps [] []
  | keep {part parts given} (others : Keeps parts given) :
      Keeps (part :: parts) ((part.key, part.value) :: given)
  | leave {part parts given} (default : part.isDefault = true) (others : Keeps parts given) :
      Keeps (part :: parts) given

/-- The members of an object are those of a record, in any order and among any number of others that
have other keys. -/
inductive IsMadeOf (sku : Sku) (given : List (String × Json.Value)) : Prop where
  | of {name own strangers} (named : name = "productId" ∨ name = "sku")
      (keeps : Keeps (sku.parts name) own) (foreign : ∀ stranger ∈ strangers, stranger.1 ∉ keys)
      (order : given.Perm (strangers ++ own)) : IsMadeOf sku given

/-- What keeps an object from being a record: it has no member under some required key, two under
one key, the SKU under both of its keys, or a null. -/
inductive Flaw (given : List (Units × Json.Value)) : Prop where
  | lacking {names} (needed : names ∈ required)
      (absent : ∀ other ∈ given, ∀ name ∈ names, other.1 ≠ Units.encode name) : Flaw given
  | repeating {key one other} (known : key ∈ keys)
      (twice : [(Units.encode key, one), (Units.encode key, other)].Sublist given) : Flaw given
  | ambiguous {one other} (newer : (Units.encode "productId", one) ∈ given)
      (older : (Units.encode "sku", other) ∈ given) : Flaw given
  | null {key} (known : key ∈ keys) (there : (Units.encode key, .null) ∈ given) : Flaw given

/-! ## Records that are made of their members -/

theorem knows_iff {key : String} : knows members key = true ↔ key ∈ keys := by
  simp [knows, members, Member.answersTo, Member.required, Member.optional, keys, or_assoc]

/-- A part is given as the member of the description that it is, or left to its fallback. -/
theorem Keeps.given {part : Part} {parts : List Part} {given : List (String × Json.Value)}
    (keeps : Keeps (part :: parts) given) {member : Member} {members : List Member}
    {sense : Json.Value → member.Value → Prop} {senses : Senses members} {value : member.Value}
    {row : Row members} (named : member.answersTo part.key = true)
    (meaning : sense part.value value)
    (fallsBack : part.isDefault = true → member.fallback = some value)
    (others : ∀ {given}, Keeps parts given → Given members senses given row) :
    Given (member :: members) (sense, senses) given (value, row) := by
  cases keeps with
  | keep rest => exact .here named meaning (others rest)
  | leave default rest => exact .left (fallsBack default) (others rest)

/-- The row of a record. -/
def toRow (sku : Sku) : Row members :=
  (sku.sku, sku.skuType, sku.title, sku.description, sku.price, sku.priceAmountMicros,
    sku.priceCurrencyCode, sku.subscriptionPeriod, ())

theorem given_toRow {sku : Sku} (fits : sku.Fits) {name : String}
    (named : name = "productId" ∨ name = "sku") {own : List (String × Json.Value)}
    (keeps : Keeps (sku.parts name) own) : Given members senses own sku.toRow := by
  have productId : (name = "productId" || ["sku"].contains name) = true := by simpa using named
  have micros := isInteger_ofInt fits.1 fits.2
  -- A part that may be left out has its default, and the others are never left out.
  have fallsBack {α : Type} [DecidableEq α] {value default : α}
      (same : decide (value = default) = true) : some default = some value :=
    congrArg some (of_decide_eq_true same).symm
  refine keeps.given productId rfl nofun fun keeps => ?_
  refine keeps.given rfl rfl fallsBack fun keeps => ?_
  refine keeps.given rfl rfl fallsBack fun keeps => ?_
  refine keeps.given rfl rfl fallsBack fun keeps => ?_
  refine keeps.given rfl rfl nofun fun keeps => ?_
  refine keeps.given rfl micros fallsBack fun keeps => ?_
  refine keeps.given rfl rfl nofun fun keeps => ?_
  refine keeps.given rfl rfl fallsBack fun keeps => ?_
  cases keeps
  exact .nil

/-- A record is read from any object that its members make up. -/
theorem IsMadeOf.decode_eq {sku : Sku} {given : List (String × Json.Value)}
    (made : sku.IsMadeOf given) (fits : sku.Fits) {text : String}
    (document : Document text.toList (.object (encodeKeys given))) : decode text = .ok sku := by
  obtain @⟨name, own, strangers, named, keeps, foreign, order⟩ := made
  have own := (given_toRow fits named keeps).settled apart
  have unknown : ∀ stranger ∈ strangers, knows members stranger.1 = false :=
    fun stranger among => Bool.eq_false_iff.mpr fun known =>
      foreign stranger among (knows_iff.mp known)
  have settled := (settled_perm order).mpr ((settled_strangers unknown).mpr own)
  exact (reads.readDocument_value document).mpr ⟨sku.toRow, rfl, .inr ⟨given, rfl, settled⟩⟩

/-! ## Objects that are no records -/

theorem mem_encodeKeys {given : List (String × Json.Value)} {key : String} {item : Json.Value} :
    (Units.encode key, item) ∈ encodeKeys given ↔ (key, item) ∈ given := by
  simp [encodeKeys, Units.encode_injective.eq_iff]

theorem sublist_encodeKeys {given : List (String × Json.Value)} {key : String}
    {one other : Json.Value}
    (twice : [(Units.encode key, one), (Units.encode key, other)].Sublist (encodeKeys given)) :
    [(key, one), (key, other)].Sublist given := by
  obtain ⟨entries, within, same⟩ := List.sublist_map_iff.mp twice
  obtain ⟨⟨first, _⟩, others, rfl, here, more⟩ := List.map_eq_cons_iff.mp same.symm
  obtain ⟨⟨second, _⟩, rest, rfl, there, none⟩ := List.map_eq_cons_iff.mp more
  obtain rfl := List.map_eq_nil_iff.mp none
  simp only [Prod.mk.injEq, Units.encode_injective.eq_iff] at here there
  obtain ⟨rfl, rfl⟩ := here
  obtain ⟨rfl, rfl⟩ := there
  exact within

/-- Every required key belongs to a member that does not fall back. -/
theorem required_member {names : List String} (needed : names ∈ required) :
    ∃ member ∈ members, member.fallback = none ∧
      ∀ {key}, member.answersTo key = true → key ∈ names := by
  simp only [required, List.mem_cons, List.not_mem_nil, or_false] at needed
  rcases needed with rfl | rfl | rfl
  · exact ⟨⟨String, "productId", ["sku"], readString, none⟩, by simp [members], rfl,
      by simp [Member.answersTo]⟩
  · exact ⟨.required "price" readString, by simp [members], rfl,
      fun own => List.mem_singleton.mpr (Member.answersTo_required.mp own)⟩
  · exact ⟨.required "price_currency_code" readString, by simp [members], rfl,
      fun own => List.mem_singleton.mpr (Member.answersTo_required.mp own)⟩

theorem refuseNull : senses.RefuseNull := by
  have text : ∀ text, ¬ IsText .null text := nofun
  have integer : ∀ number, ¬ IsInteger .null number := by
    rintro number ⟨numeral, same, -⟩
    cases same
  exact ⟨text, text, text, text, text, integer, text, text, trivial⟩

/-- An object with a flaw has no sense as a record. -/
theorem Flaw.not_sense {given : List (Units × Json.Value)} (flaw : Flaw given) (sku : Sku) :
    ¬ shape.Sense senses (.object given) sku := by
  rintro ⟨row, -, ⟨items, same, -⟩ | ⟨given, same, settled⟩⟩
  · cases same
  · cases same
    have settles {member : Member} (among : member ∈ members) :=
      Settled.settles settled refuseNull among
    have owner {key : String} (known : key ∈ keys) :
        ∃ member ∈ members, member.answersTo key = true :=
      List.any_eq_true.mp (knows_iff.mpr known)
    cases flaw with
    | lacking needed absent =>
        obtain ⟨member, among, only, names⟩ := required_member needed
        obtain ⟨sense, value, -, settles⟩ := settles among
        obtain ⟨other, there, own⟩ := settles.exists_given only
        exact absent _ (mem_encodeKeys.mpr there) _ (names own) rfl
    | repeating known twice =>
        obtain ⟨member, among, own⟩ := owner known
        obtain ⟨sense, value, -, settles⟩ := settles among
        have both := (sublist_encodeKeys twice).filter fun other => member.answersTo other.1
        have long := both.length_le.trans settles.length_le
        simp [own] at long
    | ambiguous newer older =>
        have first : ⟨String, "productId", ["sku"], readString, none⟩ ∈ members := .head _
        obtain ⟨sense, value, -, settles⟩ := settles first
        have same := settles.unique (mem_encodeKeys.mp newer) (mem_encodeKeys.mp older) rfl rfl
        simp at same
    | null known there =>
        obtain ⟨member, among, own⟩ := owner known
        obtain ⟨sense, value, refuses, settles⟩ := settles among
        exact settles.not_null refuses own (mem_encodeKeys.mp there)

/-- A record is read however it is written as an object, and nothing else is read in its place. An
object that a record's members make up, in any order, with the SKU under either of its keys, with or
without what has its default, and among any other members, is read as that record. An object that
lacks a required member, repeats one, has the SKU under both keys or a null for any member is
refused. -/
theorem decode_object {text : String} {given : List (Units × Json.Value)}
    (document : Document text.toList (.object given)) :
    (∀ (sku : Sku) entries, sku.Fits → sku.IsMadeOf entries → given = encodeKeys entries →
      decode text = .ok sku) ∧
    (Flaw given → ∃ refusal, decode text = .error refusal) := by
  constructor
  · rintro sku entries fits made rfl
    exact made.decode_eq fits document
  · intro flaw
    cases reads : decode text with
    | error refusal => exact ⟨refusal, rfl⟩
    | ok sku =>
        have meaning := (Sku.reads.readDocument_value document).mp reads
        exact absurd meaning (flaw.not_sense sku)

/-- A record out of order, under its older key, among blanks, escapes and a member that nobody asked
for, with a number beyond all limits and half a character in it. -/
def scrambled : String :=
  "\x7b\"price_currency_code\":\"EUR\", \"a\":[-1e999,\"\\ud800\"],\n" ++
    "\"\\u0073ku\" :\"b\",\"price\":\"1\"\x7d"

/-- It is read as its record, and an object with a null for its SKU is refused. -/
theorem decode_object_scrambled :
    decode scrambled = .ok ⟨"b", "", "", "", "1", 0, "EUR", ""⟩ ∧
      ∃ refusal, decode "\x7b\"price\":\"1\",\"sku\":null\x7d" = .error refusal := by
  constructor
  · have passes : skipValue
        "[-1e999,\"\\ud800\"],\n\"\\u0073ku\" :\"b\",\"price\":\"1\"\x7d".toList =
          .ok ",\n\"\\u0073ku\" :\"b\",\"price\":\"1\"\x7d".toList := rfl
    obtain ⟨start, unknown, blanks, spells⟩ := skipValue_sound passes
    have document : Document scrambled.toList (.object (encodeKeys
        [("price_currency_code", .text (Units.encode "EUR")), ("a", unknown),
          ("sku", .text (Units.encode "b")), ("price", .text (Units.encode "1"))])) :=
      ⟨_, _, .refl, .object
        (.member (.first .refl) (readText_eq_ok.mp rfl) .refl .refl (.text (readText_eq_ok.mp rfl))
        (.member (.further .refl (blanks_of_skip rfl)) (readText_eq_ok.mp rfl) .refl blanks spells
        (.member (.further .refl (blanks_of_skip rfl)) (readText_eq_ok.mp rfl) (blanks_of_skip rfl)
          .refl (.text (readText_eq_ok.mp rfl))
        (.member (.further .refl .refl) (readText_eq_ok.mp rfl) .refl .refl
          (.text (readText_eq_ok.mp rfl)) (.close .refl))))), .refl⟩
    have foreign : ∀ stranger ∈ [("a", unknown)], stranger.1 ∉ keys := by simp [keys]
    have made : IsMadeOf ⟨"b", "", "", "", "1", 0, "EUR", ""⟩
        [("price_currency_code", _), ("a", unknown), ("sku", _), ("price", _)] :=
      .of (.inr rfl) (.keep (.leave rfl (.leave rfl (.leave rfl (.keep (.leave rfl (.keep
        (.leave rfl .nil)))))))) foreign (List.perm_append_singleton _ [_, _, _]).symm
    exact (decode_object document).1 _ _ (by simp [Fits]) made rfl
  · have document : Document "\x7b\"price\":\"1\",\"sku\":null\x7d".toList
        (.object (encodeKeys [("price", .text (Units.encode "1")), ("sku", .null)])) :=
      ⟨_, _, .refl, .object
        (.member (.first .refl) (readText_eq_ok.mp rfl) .refl .refl (.text (readText_eq_ok.mp rfl))
        (.member (.further .refl .refl) (readText_eq_ok.mp rfl) .refl .refl .null
          (.close .refl))), .refl⟩
    have null : (Units.encode "sku", Json.Value.null) ∈
        encodeKeys [("price", .text (Units.encode "1")), ("sku", .null)] := by simp [encodeKeys]
    exact (decode_object document).2 (.null (by simp [keys]) null)

end Storefront.Billing.Sku
