import WalletTopUp.Wire.Payment

/-!
# Final statuses

Which statuses of a transaction end it, and which ones a follower of it wants to hear of.
-/

namespace WalletTopUp

/-- Whether a transaction of this status has come to its end. -/
def TransactionStatus.isFinal : TransactionStatus → Bool
  | completed => true
  | failed => true
  | canceled => true
  | invalidTransaction => true
  | _ => false

/-- Which updates of a transaction are wanted. -/
inductive StatusFilter where
  /-- Final statuses only. -/
  | provider
  /-- Also the status in which the user has to pay. -/
  | localPayment
deriving DecidableEq, Inhabited

/-- Whether an update of this status is wanted. -/
def StatusFilter.delivers : StatusFilter → TransactionStatus → Bool
  | provider, status => status.isFinal
  | localPayment, status => status.isFinal || status == .pendingUserPayment

end WalletTopUp
