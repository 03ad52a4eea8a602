import Storefront.Proofs.Denoting

/-!
# The normal form of a catalog

The text that a catalog is written as denotes that catalog, whatever its products say. So writing
a catalog over that was read from any text is a normal form of the text: it is read as the same
catalog, and is written as itself. `Canonical.normalises` adds what becomes of a catalog in which
a product has no id.
-/

namespace Storefront.Json

theorem readBool_writeBool (value : Bool) : ReadsBack readBool (writeBool value) value := by
  have spells (rest : List Char) : Spells (writeBool value ++ rest) (.boolean value) rest := by
    cases value with
    | true => exact .yes
    | false => exact .no
  exact Reads.boolean.readsBack spells rfl

end Storefront.Json

namespace Storefront.Catalog

open Json

theorem Product.reads_back (product : Product) :
    ReadsBack Product.shape.read product.write product := by
  have distinct : AreDistinct Product.members := by
    simp [AreDistinct, Product.members, Member.answersTo, Member.required]
  exact Product.shape.read_writeObject distinct
    (.ahead (readBool_writeBool product.isFeatured) (.ahead (readString_writeText product.kind)
      (.ahead (readString_writeText product.id) .nil)))

namespace Canonical

/-- A catalog is denoted by its own text. -/
theorem denotes_encode (catalog : Canonical) : Denotes catalog.encode catalog := by
  have distinct : AreDistinct Canonical.members := List.pairwise_singleton ..
  have elements : ∀ product ∈ catalog.products, IsElement product.write :=
    fun product _ => ⟨'\x7b', _, rfl, by decide, by decide⟩
  have products := readList_writeList (fun product _ => Product.reads_back product) elements
  exact Denotes.read_iff.mpr (readDocument_written
    (Canonical.shape.read_writeObject distinct (.ahead products .nil)))

/-- A catalog that was read passes the check again. -/
theorem check_of_decode {text : String} {catalog : Canonical} (reads : decode text = .ok catalog) :
    catalog.check = .ok catalog := by
  unfold decode at reads
  split at reads
  · next denoted _ =>
    obtain ⟨rfl, -⟩ := check_eq_ok.mp reads
    exact reads
  · simp at reads

/-- A catalog of which a product has no id is refused for such a product. -/
theorem check_nameless {catalog : Canonical}
    (nameless : ∃ product ∈ catalog.products, product.id = "") :
    ∃ index, catalog.check = .error (.emptyProductId index) := by
  unfold check
  split
  · next index _ => exact ⟨index, rfl⟩
  · next named =>
    obtain ⟨product, among, empty⟩ := nameless
    have full := List.findIdx?_eq_none_iff.mp named product among
    simp [empty] at full

/-- Catalogs normalise. A catalog is read from its own text if every product has an id, and is
otherwise refused for the first product that has none. So the text of a catalog that was read, from
whatever text, is read as the same catalog, and written over as the same text. -/
theorem normalises (catalog : Canonical) :
    (decode catalog.encode = .ok catalog ↔ ∀ product ∈ catalog.products, product.id ≠ "") ∧
    (∀ index, decode catalog.encode = .error (.emptyProductId index) ↔
      (∃ product, catalog.products[index]? = some product ∧ product.id = "") ∧
        ∀ earlier < index, ∀ product, catalog.products[earlier]? = some product →
          product.id ≠ "") ∧
    ((∃ product ∈ catalog.products, product.id = "") →
      ∃ index, decode catalog.encode = .error (.emptyProductId index)) ∧
    ∀ text, decode text = .ok catalog →
      decode catalog.encode = .ok catalog ∧
        (decode catalog.encode).map encode = .ok catalog.encode := by
  rw [catalog.denotes_encode.decode_eq]
  refine ⟨by simp [check_eq_ok], fun index => check_eq_error, check_nameless, ?_⟩
  intro text reads
  rw [check_of_decode reads]
  exact ⟨rfl, rfl⟩

/-- A catalog of one product, written in lists and with blanks, escapes and a key that nobody asked
for. -/
def scrawled : String :=
  "[ [\x7b\"id\":\"\\ud834\\udd1e\", \"a\":[-0.5e9],\n" ++
    "\"\\u0074ype\":\"\",\"featured_product\":true\x7d] ]"

/-- It is read and written over; a catalog of which the last two products have no id is refused for
the first of the two. -/
theorem scrawled_normalises :
    decode scrawled = .ok ⟨[⟨true, "", "𝄞"⟩]⟩ ∧
      decode (encode ⟨[⟨true, "", "𝄞"⟩]⟩) = .ok ⟨[⟨true, "", "𝄞"⟩]⟩ ∧
      (decode (encode ⟨[⟨true, "", "𝄞"⟩]⟩)).map encode = .ok (encode ⟨[⟨true, "", "𝄞"⟩]⟩) ∧
      decode (encode ⟨[⟨true, "subs", "a"⟩, ⟨false, "\x00", ""⟩, ⟨false, "", ""⟩]⟩) =
        .error (.emptyProductId 1) := by
  have reads : decode scrawled = .ok ⟨[⟨true, "", "𝄞"⟩]⟩ := rfl
  refine ⟨reads, ((normalises _).2.2.2 _ reads).1, ((normalises _).2.2.2 _ reads).2, ?_⟩
  refine ((normalises _).2.1 1).mpr ⟨⟨_, rfl, rfl⟩, fun earlier less product there => ?_⟩
  obtain rfl : earlier = 0 := by omega
  cases there
  decide

end Canonical

end Storefront.Catalog
