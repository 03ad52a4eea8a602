import Storefront.Billing.Response
import Storefront.Proofs.Decimals

/-!
# Listings

A service lists its records as a text. Each record reads back from what is written of it, with any
texts and any price of sixty-four signed bits, and so does a list of them. An answer with such a
list is read as its result and exactly the records listed: `Reply.read_encodeList`.
-/

namespace Storefront.Billing

open Json

namespace Sku

/-- The price of a record takes no more than sixty-four signed bits. -/
def Fits (sku : Sku) : Prop :=
  -2 ^ 63 ≤ sku.priceAmountMicros ∧ sku.priceAmountMicros ≤ 2 ^ 63 - 1

/-- The text of a list of records. -/
def encodeList (skus : List Sku) : String :=
  String.ofList (writeList (skus.map write))

theorem reads_back {sku : Sku} (fits : sku.Fits) : ReadsBack shape.read sku.write sku := by
  have distinct : AreDistinct members := by
    simp [AreDistinct, members, Member.answersTo, Member.required, Member.optional]
  exact shape.read_writeObject distinct
    (.ahead (readString_writeText sku.sku)
      (.ahead (readString_writeText sku.skuType)
        (.ahead (readString_writeText sku.title)
          (.ahead (readString_writeText sku.description)
            (.ahead (readString_writeText sku.price)
              (.ahead (readInteger_writeInteger fits.1 fits.2)
                (.ahead (readString_writeText sku.priceCurrencyCode)
                  (.ahead (readString_writeText sku.subscriptionPeriod) .nil))))))))

/-- A list of records is read as it was written. -/
theorem decodeList_encodeList {skus : List Sku} (fit : ∀ sku ∈ skus, sku.Fits) :
    decodeList (encodeList skus) = .ok skus := by
  have elements : ∀ sku ∈ skus, IsElement sku.write :=
    fun sku _ => ⟨'\x7b', _, rfl, by decide, by decide⟩
  exact readDocument_written
    (readList_writeList (fun sku among => reads_back (fit sku among)) elements)

end Sku

/-- Records survive the wire. An answer with the text of a list of records, whatever their texts and
prices are, is read as its own result and that list, with nothing to report. -/
theorem Reply.read_encodeList (result : Result) {skus : List Sku} (fit : ∀ sku ∈ skus, sku.Fits) :
    Reply.read ⟨result, some (Sku.encodeList skus)⟩ = (⟨result, some skus⟩, []) := by
  simp [Reply.read, Sku.decodeList_encodeList fit]

/-- Two records at the limits of a price, with odd texts and with none. -/
theorem Reply.read_encodeList_limits :
    Reply.read ⟨⟨.userCanceled, "late"⟩, some (Sku.encodeList
        [⟨"\"\\", "\x00\n", "\x7f", "\u2028𝄞", "", -2 ^ 63, "\x1f", ""⟩,
          ⟨"", "", "", "", "", 2 ^ 63 - 1, "", "é"⟩])⟩ =
      (⟨⟨.userCanceled, "late"⟩, some
        [⟨"\"\\", "\x00\n", "\x7f", "\u2028𝄞", "", -2 ^ 63, "\x1f", ""⟩,
          ⟨"", "", "", "", "", 2 ^ 63 - 1, "", "é"⟩]⟩, []) :=
  Reply.read_encodeList _ (by simp [Sku.Fits])

end Storefront.Billing
