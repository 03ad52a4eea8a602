import Storefront.Backend.Scripted
import Storefront.Proofs.Accounting
import Storefront.Proofs.Unfolding

/-!
# Priced catalogs on the wire

A priced catalog is read back from its text whatever its offers say, so no two catalogs share a
text. Writing one cannot fail, and `Timeline.catalogs_survive` adds that no call ever ends as if
it had.
-/

namespace Storefront

variable {World Show Signal : Type}

/-- No two priced catalogs have the same text. -/
theorem Catalog.Platform.encode_injective {one other : Platform}
    (same : one.encode = other.encode) : one = other := by
  have reads := one.decode_encode
  rw [same, other.decode_encode] at reads
  exact (Except.ok.inj reads).symm

/-- A turn that does not end its call for the text of a catalog. -/
def Turn.TrustsText (turn : Turn) : Prop :=
  ∀ refusal, turn.rest ≠ .finished (.failed (.serialization refusal))

/-- A first turn fails for the contract or for another purchase. -/
theorem Order.start_trustsText (order : Order) (busy : Bool) : (order.start busy).TrustsText := by
  intro refusal
  have form := order.start_firstTurn busy
  generalize order.start busy = turn at form
  cases form <;> simp

namespace Attempt

variable {attempt : Attempt} {first : List Action}

theorem conclude_trustsText {result : Except Failure Outcome}
    (trusts : ∀ refusal, result ≠ .error (.serialization refusal)) :
    ((attempt.conclude result).after first).TrustsText := by
  intro refusal ends
  cases result with
  | ok outcome => simp [conclude, Turn.after] at ends
  | error failure =>
      have same : failure = .serialization refusal := by simpa [conclude, Turn.after] using ends
      exact trusts refusal (same ▸ rfl)

theorem deliver_trustsText (details : List Billing.Sku) :
    ((attempt.deliver details).after first).TrustsText := by
  unfold deliver
  split
  · rw [after_after]
    exact conclude_trustsText (by simp)
  · rw [after_after]
    exact conclude_trustsText (by simp)

theorem launch_trustsText (details : List Billing.Sku) :
    ((attempt.launch details).after first).TrustsText := by
  unfold launch
  split
  · rw [after_after]
    exact conclude_trustsText (by simp)
  · intro refusal ends
    simp [Turn.after] at ends
  · exact conclude_trustsText (by simp)

theorem Reacts.trustsText {settings : Settings} {awaited : Awaited} {turn : Turn}
    (reaction : attempt.Reacts settings awaited turn) : turn.TrustsText := by
  cases reaction with
  | expired => exact conclude_trustsText (by simp)
  | cancelled => intro refusal; simp [cancel]
  | answered response =>
      cases checked : check awaited.stage response.result with
      | error refusal =>
          obtain ⟨first, _, same⟩ := resume_refused settings attempt checked
          rw [same]
          refine conclude_trustsText fun refusal blames => ?_
          rcases check_error checked with other | other <;> simp [other] at blames
      | ok _ =>
          cases awaited with
          | setup =>
              rw [resume_setup checked]
              intro refusal
              simp [query]
          | offers =>
              rw [resume_offers checked]
              cases attempt.purpose with
              | purchase => exact launch_trustsText _
              | lookup => exact deliver_trustsText _
          | launch sku =>
              rw [resume_launch checked]
              exact conclude_trustsText (by simp)

end Attempt

theorem Turn.TrustsText.status {turn : Turn} (trusts : turn.TrustsText) (scene : Scene)
    (began : Nat) (refusal : Json.Refusal) (moment : Nat) :
    turn.rest.status scene began ≠ .finished (.failed (.serialization refusal)) moment := by
  intro ends
  cases rest : turn.rest with
  | waiting attempt awaited => simp [rest, Rest.status] at ends
  | finished ending =>
      simp only [rest, Rest.status, Status.finished.injEq] at ends
      exact trusts refusal (by rw [rest, ends.1])

theorem Story.trustsText {settings : Settings} {order : Order} {index : Nat} {status : Status}
    {deeds : List Deed} (story : Story settings order index status deeds)
    (refusal : Json.Refusal) (moment : Nat) :
    status ≠ .finished (.failed (.serialization refusal)) moment := by
  cases story with
  | unstarted => simp
  | started now session busy => exact (order.start_trustsText busy).status _ _ _ _
  | reacted now prior reaction => exact reaction.trustsText.status _ _ _ _

namespace Timeline

variable {backend : Backend World Show Signal} {settings : Settings}
  {origin timeline : Timeline World Show Signal}

/-- Priced catalogs survive the wire. Every catalog is read as it was written, different catalogs
are written differently, and no call of any run ends because a catalog could not be written or
read. -/
theorem catalogs_survive (fresh : origin.Fresh)
    (reached : origin.Interleaves backend settings timeline) :
    (∀ catalog : Catalog.Platform, Catalog.Platform.decode catalog.encode = .ok catalog) ∧
    (∀ one other : Catalog.Platform, one ≠ other → one.encode ≠ other.encode) ∧
    ∀ call ∈ timeline.calls, ∀ refusal moment,
      call.status ≠ .finished (.failed (.serialization refusal)) moment := by
  refine ⟨Catalog.Platform.decode_encode, fun one other differ same => ?_, ?_⟩
  · exact differ (Catalog.Platform.encode_injective same)
  · intro call among
    obtain ⟨index, found⟩ := List.getElem?_of_mem among
    exact (fresh.story reached found).trustsText

/-- An offer of a quote, a backslash, control characters and a supplementary character. -/
def oddOffer : Catalog.Offer :=
  ⟨"\"\\", "\x00\x1f\n\x7f", "\u2028𝄞", ""⟩

/-- It survives, twice over, and so do the calls of a run. -/
theorem odd_survives :
    Catalog.Platform.decode (Catalog.Platform.encode ⟨[oddOffer, oddOffer]⟩) =
        .ok ⟨[oddOffer, oddOffer]⟩ ∧
      Catalog.Platform.encode ⟨[oddOffer, oddOffer]⟩ ≠ Catalog.Platform.encode ⟨[oddOffer]⟩ ∧
      ∀ call ∈ (various.run (scripted variousScripts true) {}).calls, ∀ refusal moment,
        call.status ≠ .finished (.failed (.serialization refusal)) moment := by
  have fresh : various.Fresh := ⟨by decide, rfl, rfl, rfl⟩
  have survive := catalogs_survive fresh (run_interleaves (scripted variousScripts true) {} various)
  exact ⟨survive.1 _, survive.2.1 _ _ (by simp), survive.2.2⟩

end Timeline

end Storefront
