import Storefront.Json.Document
import Storefront.Json.Writer

/-!
# The service's record of a product

A record is known by its SKU. The members an offer is made of have to be present;
the others fall back to an empty text or zero.
-/

namespace Storefront.Billing

/-- The kinds of products that can be asked for. -/
inductive SkuType where
  | subs
  | inapp
deriving DecidableEq, Repr

/-- The word a kind is asked for by. -/
def SkuType.word : SkuType -> String
  | subs => "subs"
  | inapp => "inapp"

/-- The service's record of one SKU. -/
structure Sku where
  sku : String
  skuType : String
  title : String
  description : String
  price : String
  priceAmountMicros : Int
  priceCurrencyCode : String
  subscriptionPeriod : String
deriving DecidableEq, Repr

namespace Sku

open Json

/-- The members of a record as they are read. The SKU has an older key. -/
def members : List Member := [
  ⟨String, "productId", ["sku"], readString, none⟩,
  .optional "type" readString "",
  .optional "title" readString "",
  .optional "description" readString "",
  .required "price" readString,
  .optional "price_amount_micros" readInteger 0,
  .required "price_currency_code" readString,
  .optional "subscriptionPeriod" readString ""]

/-- A record, made of its members. -/
def ofRow : Row members -> Sku
  | (sku, skuType, title, description, price, micros, currency, period, ()) =>
      ⟨sku, skuType, title, description, price, micros, currency, period⟩

/-- Records as a service writes them. -/
def shape : Shape Sku where
  name := "SkuDetails"
  members := members
  build := ofRow

/-- A written record, with every member under its own key. -/
def write (sku : Sku) : List Char :=
  writeObject [
    writeMember "productId" (writeText sku.sku),
    writeMember "type" (writeText sku.skuType),
    writeMember "title" (writeText sku.title),
    writeMember "description" (writeText sku.description),
    writeMember "price" (writeText sku.price),
    writeMember "price_amount_micros" (writeInteger sku.priceAmountMicros),
    writeMember "price_currency_code" (writeText sku.priceCurrencyCode),
    writeMember "subscriptionPeriod" (writeText sku.subscriptionPeriod)]

/-- The text of a record. -/
def encode (sku : Sku) : String :=
  String.ofList sku.write

/-- Reads a text that is one record. -/
def decode (text : String) : Except Refusal Sku :=
  readDocument shape.read text

/-- Reads a text that is a list of records. -/
def decodeList (text : String) : Except Refusal (List Sku) :=
  readDocument (readList shape.read) text

end Sku

end Storefront.Billing
