import Storefront.Host.Machine
import Storefront.Turn

/-!
# Requests to the classes of the app

What native code asks of the two classes the app provides: the one that talks to the
billing service, and the one that receives offers.
-/

namespace Storefront.Host

/-- The class that talks to the billing service. -/
def billingBridge : String := "org.catalogbridge.BillingBridge"

/-- The class that receives offers and failures. -/
def catalogBridge : String := "org.catalogbridge.CatalogBridge"

/-- The class of texts. -/
def textClass : String := "java.lang.String"

/-- Calls a static method of a class that is at hand. -/
def callStatic (className method signature : String) (arguments : List Value) : Step :=
  .use (.call ⟨.class className, method, signature, arguments⟩)

/-- The method a question is put to. -/
def methodOf : Question -> String
  | .setup => "startConnection"
  | .offers .. => "querySkuDetails"
  | .launch .. => "launchBillingFlow"

/-- Sets the elements of an array to texts, from a place on. -/
def fill : (array : List (Option String)) -> (index : Nat) -> List String -> List (Option String)
  | array, _, [] => array
  | array, index, text :: texts => fill (array.set index (some text)) (index + 1) texts

/-- An array of texts, as it is filled: it is made of nulls. One that was left would be handed over
as an empty text. An array has fewer than `2 ^ 31` elements; that there are no more texts is
assumed. -/
def filled (texts : List String) : Value :=
  .array ((fill (List.replicate texts.length none) 0 texts).map (·.getD ""))

/-- Puts a question to the billing service. A query is assumed to be for fewer than `2 ^ 31`
products, which an array has elements for, so it is not refused for their number. -/
def questionSteps (handle : Int) (question : Question) (home : Home) : List Step :=
  match question with
  | .setup => [
      .needClass billingBridge,
      callStatic billingBridge (methodOf question) "(Landroid/content/Context;J)V"
        [.object home.context, .long handle]]
  | .offers skus skuType =>
      [.needClass billingBridge, .needClass textClass, .use .makeArray] ++
        skus.flatMap (fun _ => [Step.use .makeText, .use .setElement]) ++
        [.use .makeText,
          callStatic billingBridge (methodOf question)
            "(J[Ljava/lang/String;Ljava/lang/String;)V"
            [.long handle, filled skus, .text skuType.word]]
  | .launch sku presentation => [
      .needClass billingBridge,
      .use .makeText,
      callStatic billingBridge (methodOf question)
        "(JLandroid/app/Activity;Ljava/lang/String;)V"
        [.long handle, .object presentation, .text sku.sku]]

/-- Ends a connection. -/
def endSteps (handle : Int) (_ : Home) : List Step := [
  .needClass billingBridge,
  callStatic billingBridge "endConnection" "(J)V" [.long handle]]

/-- Hands a text to the receiver of offers. -/
def receiverSteps (method text : String) (_ : Home) : List Step := [
  .needClass catalogBridge,
  .use .makeText,
  callStatic catalogBridge method "(Ljava/lang/String;)V" [.text text]]

end Storefront.Host
