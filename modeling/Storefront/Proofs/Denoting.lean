import Storefront.Catalog.Canonical
import Storefront.Proofs.Records

/-!
# The catalogs that texts denote

`Denotes` is the grammar of the application's catalogs, over values and without a reader. A
catalog is read exactly from the texts that denote it, and `Canonical.decode_exactly` says what
becomes of every other text.
-/

namespace Storefront.Catalog

open Json
open Storefront.Text (Units)

/-- A key is given exactly once, with this value. -/
def Once (given : List (String × Value)) (key : String) (value : Value) : Prop :=
  given.filter (fun other => other.1 = key) = [(key, value)]

/-- A product is a list of its members, or an object in which each of them is given once. -/
inductive IsProduct : Value → Product → Prop where
  | list {isFeatured kind id} :
      IsProduct (.list [.boolean isFeatured, .text (Units.encode kind), .text (Units.encode id)])
        ⟨isFeatured, kind, id⟩
  | object {given isFeatured kind id}
      (featured : Once given "featured_product" (.boolean isFeatured))
      (typed : Once given "type" (.text (Units.encode kind)))
      (identified : Once given "id" (.text (Units.encode id))) :
      IsProduct (.object (encodeKeys given)) ⟨isFeatured, kind, id⟩

/-- A catalog holds the list of its products, whether in a list or under their key. -/
inductive IsCatalog : Value → Canonical → Prop where
  | list {items products} (each : List.Forall₂ IsProduct items products) :
      IsCatalog (.list [.list items]) ⟨products⟩
  | object {given items products} (listed : Once given "products" (.list items))
      (each : List.Forall₂ IsProduct items products) :
      IsCatalog (.object (encodeKeys given)) ⟨products⟩

/-- A text is one value that is a catalog. -/
def Denotes (text : String) (catalog : Canonical) : Prop :=
  ∃ value, Document text.toList value ∧ IsCatalog value catalog

/-- A required member is settled by the one value given under its key. -/
theorem required_settles {α : Type} {key : String} {read : Reader α} {sense : Value → α → Prop}
    {given : List (String × Value)} {result : α} :
    (Member.required key read).Settles sense none given result ↔
      ∃ item, Once given key item ∧ sense item result := by
  have same : (Member.required key read).among given =
      given.filter fun other => other.1 = key :=
    List.filter_congr fun other _ => Bool.or_false _
  constructor
  · rintro (⟨name, item, one, meaning⟩ | ⟨_, absent⟩)
    · rw [same] at one
      have named : name = key := by
        have among : (name, item) ∈ given.filter fun other => other.1 = key := by simp [one]
        simpa using (List.mem_filter.mp among).2
      exact ⟨item, named ▸ one, meaning⟩
    · simp [Member.required] at absent
  · rintro ⟨item, one, meaning⟩
    exact .inl ⟨key, item, same.trans one, meaning⟩

/-- A required member takes the first item of a list. -/
theorem required_listed {α : Type} {key : String} {read : Reader α} {sense : Value → α → Prop}
    {members : List Member} {senses : Senses members} {items : List Value} {result : α}
    {row : Row members} :
    Listed (.required key read :: members) (sense, senses) items (result, row) ↔
      ∃ item others, items = item :: others ∧ sense item result ∧
        Listed members senses others row := by
  cases items <;> simp [Listed, Member.required]

theorem Product.sense_iff {value : Value} {product : Product} :
    Product.shape.Sense (IsBoolean, IsText, IsText, ()) value product ↔
      IsProduct value product := by
  constructor
  · rintro ⟨⟨isFeatured, kind, id, ⟨⟩⟩, rfl, ⟨items, rfl, listed⟩ | ⟨given, rfl, settled⟩⟩
    · obtain ⟨_, _, rfl, rfl, behind⟩ := required_listed.mp listed
      obtain ⟨_, _, rfl, rfl, last⟩ := required_listed.mp behind
      obtain ⟨_, _, rfl, rfl, rfl⟩ := required_listed.mp last
      exact .list
    · obtain ⟨featured, typed, identified, -⟩ := settled
      obtain ⟨_, featured, rfl⟩ := required_settles.mp featured
      obtain ⟨_, typed, rfl⟩ := required_settles.mp typed
      obtain ⟨_, identified, rfl⟩ := required_settles.mp identified
      exact .object featured typed identified
  · intro isProduct
    cases isProduct with
    | @list isFeatured kind id =>
        refine ⟨(isFeatured, kind, id, ()), rfl, .inl ⟨_, rfl, ?_⟩⟩
        exact ⟨rfl, rfl, rfl, rfl⟩
    | @object given isFeatured kind id featured typed identified =>
        refine ⟨(isFeatured, kind, id, ()), rfl, .inr ⟨given, rfl, ?_⟩⟩
        exact ⟨required_settles.mpr ⟨_, featured, rfl⟩, required_settles.mpr ⟨_, typed, rfl⟩,
          required_settles.mpr ⟨_, identified, rfl⟩, trivial⟩

theorem Product.reads : Reads Product.shape.read IsProduct := by
  have apart : AreApart Product.shape.members := by
    simp [AreApart, Product.shape, Product.members, Member.answersTo, Member.required]
  have read : Senses.Read Product.shape.members (IsBoolean, IsText, IsText, ()) :=
    ⟨.boolean, .string, .string, trivial⟩
  exact (Reads.record Product.shape read apart).congr fun _ _ => Product.sense_iff

theorem Canonical.sense_iff {value : Value} {catalog : Canonical} :
    Canonical.shape.Sense (IsList IsProduct, ()) value catalog ↔ IsCatalog value catalog := by
  constructor
  · rintro ⟨⟨products, ⟨⟩⟩, rfl, ⟨items, rfl, listed⟩ | ⟨given, rfl, settled⟩⟩
    · obtain ⟨_, _, rfl, ⟨items, rfl, each⟩, rfl⟩ := required_listed.mp listed
      exact .list each
    · obtain ⟨_, once, items, rfl, each⟩ := required_settles.mp settled.1
      exact .object once each
  · intro isCatalog
    cases isCatalog with
    | @list items products each =>
        exact ⟨(products, ()), rfl, .inl ⟨_, rfl, ⟨items, rfl, each⟩, rfl⟩⟩
    | @object given items products once each =>
        refine ⟨(products, ()), rfl, .inr ⟨given, rfl, ?_⟩⟩
        exact ⟨required_settles.mpr ⟨_, once, items, rfl, each⟩, trivial⟩

theorem Canonical.reads : Reads Canonical.shape.read IsCatalog := by
  have apart : AreApart Canonical.shape.members := List.pairwise_singleton ..
  have read : Senses.Read Canonical.shape.members (IsList IsProduct, ()) :=
    ⟨Product.reads.list, trivial⟩
  exact (Reads.record Canonical.shape read apart).congr fun _ _ => Canonical.sense_iff

theorem Canonical.check_eq_ok {catalog checked : Canonical} :
    catalog.check = .ok checked ↔
      catalog = checked ∧ ∀ product ∈ catalog.products, product.id ≠ "" := by
  have passes : catalog.check = .ok checked ↔
      catalog = checked ∧ catalog.products.findIdx? (·.id.isEmpty) = none := by
    unfold check
    split <;> simp [*]
  rw [passes, List.findIdx?_eq_none_iff]
  simp

/-- The product that is reported is the first without an id. -/
theorem Canonical.check_eq_error {catalog : Canonical} {index : Nat} :
    catalog.check = .error (.emptyProductId index) ↔
      (∃ product, catalog.products[index]? = some product ∧ product.id = "") ∧
        ∀ earlier < index, ∀ product, catalog.products[earlier]? = some product →
          product.id ≠ "" := by
  have fails : catalog.check = .error (.emptyProductId index) ↔
      catalog.products.findIdx? (·.id.isEmpty) = some index := by
    unfold check
    split <;> simp [*]
  rw [fails, List.findIdx?_eq_some_iff_getElem]
  constructor
  · rintro ⟨inside, nameless, named⟩
    refine ⟨⟨_, List.getElem?_eq_getElem inside, by simpa using nameless⟩, ?_⟩
    intro earlier less product there
    obtain ⟨_, rfl⟩ := List.getElem?_eq_some_iff.mp there
    simpa using named earlier less
  · rintro ⟨⟨product, there, nameless⟩, named⟩
    obtain ⟨inside, rfl⟩ := List.getElem?_eq_some_iff.mp there
    refine ⟨inside, by simpa using nameless, fun earlier less => ?_⟩
    simpa using named earlier less _ (List.getElem?_eq_getElem (by omega))

theorem Denotes.read_iff {text : String} {catalog : Canonical} :
    Denotes text catalog ↔ readDocument Canonical.shape.read text = .ok catalog :=
  Canonical.reads.readDocument_eq_ok.symm

/-- A text that denotes a catalog is decoded to what the check makes of it. -/
theorem Denotes.decode_eq {text : String} {catalog : Canonical} (denotes : Denotes text catalog) :
    Canonical.decode text = catalog.check := by
  rw [Canonical.decode, Denotes.read_iff.mp denotes]

/-- A text that denotes no catalog is malformed. -/
theorem decode_malformed {text : String} (none : ¬ ∃ catalog, Denotes text catalog) :
    ∃ reason, Canonical.decode text = .error (.malformed reason) := by
  cases reads : readDocument Canonical.shape.read text with
  | ok catalog => exact absurd ⟨catalog, Denotes.read_iff.mpr reads⟩ none
  | error refusal => exact ⟨refusal.message, by rw [Canonical.decode, reads]⟩

theorem Canonical.check_ne_malformed (catalog : Canonical) (reason : String) :
    catalog.check ≠ .error (.malformed reason) := by
  unfold check
  split <;> simp

/-- A catalog is read exactly from the texts that denote it, if every product has an id. The first
product without one is reported of a text that denotes a catalog, and every other text is
malformed. -/
theorem Canonical.decode_exactly (text : String) :
    (∀ catalog, decode text = .ok catalog ↔
      Denotes text catalog ∧ ∀ product ∈ catalog.products, product.id ≠ "") ∧
    (∀ index, decode text = .error (.emptyProductId index) ↔
      ∃ catalog, Denotes text catalog ∧
        (∃ product, catalog.products[index]? = some product ∧ product.id = "") ∧
        ∀ earlier < index, ∀ product, catalog.products[earlier]? = some product →
          product.id ≠ "") ∧
    ((∃ reason, decode text = .error (.malformed reason)) ↔
      ¬ ∃ catalog, Denotes text catalog) := by
  by_cases some : ∃ catalog, Denotes text catalog
  · obtain ⟨denoted, denotes⟩ := some
    have only : ∀ catalog, Denotes text catalog ↔ denoted = catalog := by
      intro catalog
      rw [Denotes.read_iff, Denotes.read_iff.mp denotes, Except.ok.injEq]
    rw [denotes.decode_eq]
    refine ⟨fun catalog => ?_, fun index => ?_, ?_⟩
    · rw [check_eq_ok, only]
      constructor <;> rintro ⟨rfl, named⟩ <;> exact ⟨rfl, named⟩
    · simp only [check_eq_error, only, exists_eq_left']
    · simp only [check_ne_malformed, exists_false, false_iff, not_not]
      exact ⟨denoted, denotes⟩
  · obtain ⟨reason, malformed⟩ := decode_malformed some
    rw [malformed]
    refine ⟨fun catalog => ?_, fun index => ?_, ?_⟩
    · simpa using fun denotes => absurd ⟨catalog, denotes⟩ some
    · simpa using fun catalog denotes => absurd ⟨catalog, denotes⟩ some
    · simpa using some

end Storefront.Catalog
