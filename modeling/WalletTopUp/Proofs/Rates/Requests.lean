import WalletTopUp.Proofs.Service.Learning
import WalletTopUp.Rates.Conversion

/-!
# What a conversion asks for

A conversion asks the broker for one quote, and a conversion of tokens may hand what comes of it to
the store under the key of the amount.
-/

namespace WalletTopUp

-- A statement about what a conversion asks for must not be decided by reading the amount.
attribute [local irreducible] Amount.isNonNegative

namespace Converter

variable {promise : Request → Prop} {converter : Converter} {amount source : String}
  {target : Option String} {scale : Nat}

/-- A conversion asks for nothing but a quote. -/
theorem allRequests_convert (quotes : ∀ amount, promise (.quote source amount target)) :
    (convert amount source target scale).AllRequests promise := by
  simp only [convert]
  split
  · trivial
  · split
    · trivial
    · refine ⟨quotes _, fun answer => ?_⟩
      cases answer <;> trivial

theorem allRequests_store {direction : RateDirection} {money : Money}
    (saves : ∀ key money, rateKey direction amount = .ok key → promise (.saveRate key money)) :
    (converter.store direction amount money).AllRequests promise := by
  simp only [store]
  split
  · trivial
  · split
    · trivial
    · next keyed => exact ⟨saves _ _ keyed, fun _ => trivial⟩

/-- A conversion of tokens asks for a quote in the local currency and may store it. -/
theorem allRequests_tokenToLocal
    (quotes : ∀ amount, promise (.quote tokenCode amount none))
    (saves : ∀ key money, rateKey .appcToFiat amount = .ok key → promise (.saveRate key money)) :
    (converter.tokenToLocal amount scale).AllRequests promise := by
  unfold tokenToLocal convertAndStore Dialogue.andThen
  refine (allRequests_convert quotes).bind fun result => ?_
  cases result with
  | error _ => trivial
  | ok money => exact (allRequests_store saves).bind fun _ => trivial

end Converter

end WalletTopUp
