import Storefront.Billing.Sku

/-!
# The priced catalog

What is left of the application's catalog after the billing service has priced it, in
the order of the service's records.
-/

namespace Storefront.Catalog

/-- The service's pricing of one product. -/
structure Offer where
  sku : String
  description : String
  displayPrice : String
  currencyCode : String
deriving DecidableEq, Repr

/-- The offers for a catalog. -/
structure Platform where
  products : List Offer
deriving DecidableEq, Repr

namespace Offer

open Json

/-- The offer a record makes. -/
def ofSku (sku : Billing.Sku) : Offer :=
  ⟨sku.sku, sku.description, sku.price, sku.priceCurrencyCode⟩

def members : List Member := [
  .required "sku" readString,
  .required "description" readString,
  .required "price" readString,
  .required "priceCurrencyCode" readString]

def ofRow : Row members -> Offer
  | (sku, description, displayPrice, currencyCode, ()) =>
      ⟨sku, description, displayPrice, currencyCode⟩

def shape : Shape Offer where
  name := "PlatformOffer"
  members := members
  build := ofRow

def write (offer : Offer) : List Char :=
  writeObject [
    writeMember "sku" (writeText offer.sku),
    writeMember "description" (writeText offer.description),
    writeMember "price" (writeText offer.displayPrice),
    writeMember "priceCurrencyCode" (writeText offer.currencyCode)]

end Offer

namespace Platform

open Json

def members : List Member := [
  .required "products" (readList Offer.shape.read)]

def ofRow : Row members -> Platform
  | (products, ()) => ⟨products⟩

def shape : Shape Platform where
  name := "PlatformCatalog"
  members := members
  build := ofRow

/-- The text of a priced catalog. -/
def encode (catalog : Platform) : String :=
  String.ofList (writeObject [
    writeMember "products" (writeList (catalog.products.map Offer.write))])

/-- Reads a priced catalog. -/
def decode (text : String) : Except Refusal Platform :=
  readDocument shape.read text

def size (catalog : Platform) : Nat :=
  catalog.products.length

def isEmpty (catalog : Platform) : Bool :=
  catalog.products.isEmpty

end Platform

end Storefront.Catalog
