import Storefront.Json.Document
import Storefront.Json.Writer

/-!
# The application's catalog

The products an application knows of, in the order it wants them looked up. Whoever
hands one over answers for it: a catalog that cannot be read, or that names a product
without an id, is a violation of that contract.
-/

namespace Storefront.Catalog

/-- A product as the application describes it. -/
structure Product where
  isFeatured : Bool
  kind : String
  id : String
deriving DecidableEq, Repr

/-- The products to look up, in order. -/
structure Canonical where
  products : List Product
deriving DecidableEq, Repr

/-- What can be wrong with a catalog that was handed over. -/
inductive Violation where
  | unreadable (reason : String)
  | malformed (reason : String)
  | emptyProductId (index : Nat)
  | purchaseCatalogSize (count : Nat)
deriving DecidableEq, Repr

/-- The wording of each violation. -/
def Violation.message : Violation -> String
  | unreadable reason => "catalog argument could not be read: " ++ reason
  | malformed reason => "catalog does not match the expected shape: " ++ reason
  | emptyProductId index => "product at index " ++ toString index ++ " has an empty id"
  | purchaseCatalogSize count =>
      "a purchase needs exactly one product, got " ++ toString count

namespace Product

open Json

def members : List Member := [
  .required "featured_product" readBool,
  .required "type" readString,
  .required "id" readString]

def ofRow : Row members -> Product
  | (isFeatured, kind, id, ()) => ⟨isFeatured, kind, id⟩

def shape : Shape Product where
  name := "CanonicalProduct"
  members := members
  build := ofRow

def write (product : Product) : List Char :=
  writeObject [
    writeMember "featured_product" (writeBool product.isFeatured),
    writeMember "type" (writeText product.kind),
    writeMember "id" (writeText product.id)]

end Product

namespace Canonical

open Json

def members : List Member := [
  .required "products" (readList Product.shape.read)]

def ofRow : Row members -> Canonical
  | (products, ()) => ⟨products⟩

def shape : Shape Canonical where
  name := "CanonicalCatalog"
  members := members
  build := ofRow

/-- The text of a catalog. -/
def encode (catalog : Canonical) : String :=
  String.ofList (writeObject [
    writeMember "products" (writeList (catalog.products.map Product.write))])

/-- Demands that every product has an id. -/
def check (catalog : Canonical) : Except Violation Canonical :=
  match catalog.products.findIdx? (·.id.isEmpty) with
  | some index => .error (.emptyProductId index)
  | none => .ok catalog

/-- Reads a catalog. Ids may repeat, but none may be empty. -/
def decode (text : String) : Except Violation Canonical :=
  match readDocument shape.read text with
  | .ok catalog => catalog.check
  | .error refusal => .error (.malformed refusal.message)

/-- Reads a catalog that came as an argument, which may not even have been readable
as a text. -/
def decodeArgument (argument : Except String String) : Except Violation Canonical :=
  match argument with
  | .ok text => decode text
  | .error reason => .error (.unreadable reason)

/-- The ids of the products, in order. -/
def ids (catalog : Canonical) : List String :=
  catalog.products.map (·.id)

/-- The first product with an id. -/
def find? (catalog : Canonical) (id : String) : Option Product :=
  catalog.products.find? (·.id = id)

/-- The first product that is featured. -/
def featured? (catalog : Canonical) : Option Product :=
  catalog.products.find? (·.isFeatured)

/-- The only product of a catalog meant for a purchase. -/
def single (catalog : Canonical) : Except Violation Product :=
  match catalog.products with
  | [product] => .ok product
  | products => .error (.purchaseCatalogSize products.length)

def size (catalog : Canonical) : Nat :=
  catalog.products.length

def isEmpty (catalog : Canonical) : Bool :=
  catalog.products.isEmpty

end Canonical

end Storefront.Catalog
