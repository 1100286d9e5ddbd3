import WalletTopUp.Json.Record

/-!
# Payments on the wire

What is asked of the payment provider and what it answers.
-/

namespace WalletTopUp

open Json

/-- A way to pay. -/
structure PaymentMethod where
  id : String
  label : String
  iconUrl : Option String := none
  /-- The smallest amount that this method takes. -/
  minAmount : Option Decimal := none
  /-- The largest amount that this method takes. -/
  maxAmount : Option Decimal := none
deriving DecidableEq, Inhabited

/-- How far a transaction has got. -/
inductive TransactionStatus where
  | pending
  | pendingUserPayment
  | pendingServiceAuthorization
  | processing
  | completed
  | failed
  | canceled
  | invalidTransaction
  /-- Any status that is not known here. -/
  | unknown
deriving DecidableEq, Inhabited

/-- What the provider is asked to charge. -/
structure PaymentRequest where
  payment : Json.Value
  returnUrl : String
  priceValue : Decimal
  priceCurrency : String
  reference : Option String
  method : String
  walletAddress : String
  origin : Option String
  domain : String
  metadata : Option String
  sku : Option String
  callbackUrl : Option String
  transactionType : String
  developerWallet : Option String
  storeWallet : Option String
  oemWallet : Option String
  userWallet : Option String
deriving Inhabited, BEq

/-- What the user has to do next. -/
inductive ActionKind where
  | redirect
  | threeDs2
  /-- Any action that is not known here. -/
  | other
deriving DecidableEq, Inhabited

/-- A step that the provider wants the user to take. -/
structure PaymentAction where
  kind : ActionKind
  url : Option String
  method : Option String
  paymentData : Option String
deriving DecidableEq, Inhabited

/-- The provider's answer to a payment. -/
structure PaymentReply where
  uid : Option String := none
  status : Option TransactionStatus := none
  resultCode : Option String := none
  action : Option PaymentAction := none
  refusalReason : Option String := none
  refusalCode : Option Int32 := none
  error : Option String := none
  hash : Option String := none
  orderReference : Option String := none
deriving DecidableEq, Inhabited

/-- What the provider says about a transaction. -/
structure TransactionUpdate where
  uid : String
  status : TransactionStatus
  hash : Option String
  orderReference : Option String
deriving DecidableEq, Inhabited

/-- How a payment with one method would look. -/
structure PaymentInfo where
  paymentMethods : Json.Value
  priceValue : Decimal
  priceCurrency : String
  isStored : Bool
deriving Inhabited, BEq

/-! ## Names -/

namespace TransactionStatus

/-- The wire name of a status. -/
def name : TransactionStatus → String
  | pending => "PENDING"
  | pendingUserPayment => "PENDING_USER_PAYMENT"
  | pendingServiceAuthorization => "PENDING_SERVICE_AUTHORIZATION"
  | processing => "PROCESSING"
  | completed => "COMPLETED"
  | failed => "FAILED"
  | canceled => "CANCELED"
  | invalidTransaction => "INVALID_TRANSACTION"
  | unknown => "UNKNOWN"

/-- The status of a wire name. -/
def ofName : String → TransactionStatus
  | "PENDING" => pending
  | "PENDING_USER_PAYMENT" => pendingUserPayment
  | "PENDING_SERVICE_AUTHORIZATION" => pendingServiceAuthorization
  | "PROCESSING" => processing
  | "COMPLETED" => completed
  | "FAILED" => failed
  | "CANCELED" => canceled
  | "INVALID_TRANSACTION" => invalidTransaction
  | _ => unknown

/-- The word that the screen shows for a status. -/
def display : TransactionStatus → String
  | pending => "pending"
  | pendingUserPayment => "pending_user_payment"
  | pendingServiceAuthorization => "pending_service_authorization"
  | processing => "processing"
  | completed => "completed"
  | failed => "failed"
  | canceled => "canceled"
  | invalidTransaction => "invalid_transaction"
  | unknown => "unknown"

@[simp] theorem ofName_name (status : TransactionStatus) : ofName status.name = status := by
  cases status <;> rfl

end TransactionStatus

namespace ActionKind

/-- The wire name of an action. -/
def name : ActionKind → String
  | redirect => "redirect"
  | threeDs2 => "threeDS2"
  | other => "Other"

/-- The action of a wire name. -/
def ofName : String → ActionKind
  | "redirect" => redirect
  | "threeDS2" => threeDs2
  | _ => other

@[simp] theorem ofName_name (kind : ActionKind) : ofName kind.name = kind := by
  cases kind <;> rfl

end ActionKind

/-- Whether two amounts that may be absent are both absent or one number. -/
def sameAmount? : Option Decimal → Option Decimal → Bool
  | none, none => true
  | some left, some right => left.sameNumber right
  | _, _ => false

/-- Whether two methods agree, their bounds being compared as numbers. -/
def PaymentMethod.sameMethod (left right : PaymentMethod) : Bool :=
  left.id == right.id && left.label == right.label && left.iconUrl == right.iconUrl
    && sameAmount? left.minAmount right.minAmount && sameAmount? left.maxAmount right.maxAmount

/-! ## Refusals -/

namespace PaymentReply

/-- A text in which every ASCII capital is small. -/
def lowerAscii (text : String) : List Char := text.toList.map Char.toLower

/-- Whether the provider refused the payment. -/
def isRefused (reply : PaymentReply) : Bool :=
  reply.error.isSome || reply.refusalReason.isSome
    || reply.resultCode.any fun code => lowerAscii code == "refused".toList

/-- Why the provider refused the payment: the first of error, reason and code that it gives. -/
def refusalMessage (reply : PaymentReply) : String :=
  ((reply.error.or reply.refusalReason).or reply.resultCode).getD "unknown refusal"

end PaymentReply

/-! ## JSON forms -/

/-- A text that may be absent. -/
def optionalText : Option String → Json.Value := Value.optional Value.string

instance : Wire PaymentMethod where
  encode method := .object [
    ("id", .string method.id),
    ("label", .string method.label),
    ("icon_url", optionalText method.iconUrl),
    ("min_amount", Value.optional decimal method.minAmount),
    ("max_amount", Value.optional decimal method.maxAmount)]
  decode? tree := do
    let record ← Record.ofTree? [⟨"id", false⟩, ⟨"label", false⟩, ⟨"icon_url", true⟩,
      ⟨"min_amount", true⟩, ⟨"max_amount", true⟩] tree
    let id ← record.required "id" Tree.text?
    let label ← record.required "label" Tree.text?
    let iconUrl ← record.optional "icon_url" Tree.text?
    let minAmount ← record.optional "min_amount" Tree.decimal?
    let maxAmount ← record.optional "max_amount" Tree.decimal?
    return { id, label, iconUrl, minAmount, maxAmount }

instance : Wire TransactionStatus where
  encode status := .string status.name
  decode? tree := tree.alternative?.map TransactionStatus.ofName

instance : Wire ActionKind where
  encode kind := .string kind.name
  decode? tree := tree.alternative?.map ActionKind.ofName

instance : Wire PaymentAction where
  encode action := .object [
    ("type", encode action.kind),
    ("url", optionalText action.url),
    ("method", optionalText action.method),
    ("payment_data", optionalText action.paymentData)]
  decode? tree := do
    let record ← Record.ofTree?
      [⟨"type", false⟩, ⟨"url", true⟩, ⟨"method", true⟩, ⟨"payment_data", true⟩] tree
    let kind ← record.required "type" decode?
    let url ← record.optional "url" Tree.text?
    let method ← record.optional "method" Tree.text?
    let paymentData ← record.optional "payment_data" Tree.text?
    return { kind, url, method, paymentData }

instance : Wire PaymentRequest where
  encode request := .object [
    ("payment", request.payment),
    ("return_url", .string request.returnUrl),
    ("price_value", decimal request.priceValue),
    ("price_currency", .string request.priceCurrency),
    ("reference", optionalText request.reference),
    ("method", .string request.method),
    ("wallet_address", .string request.walletAddress),
    ("origin", optionalText request.origin),
    ("domain", .string request.domain),
    ("metadata", optionalText request.metadata),
    ("sku", optionalText request.sku),
    ("callback_url", optionalText request.callbackUrl),
    ("type", .string request.transactionType),
    ("developer_wallet", optionalText request.developerWallet),
    ("store_wallet", optionalText request.storeWallet),
    ("oem_wallet", optionalText request.oemWallet),
    ("user_wallet", optionalText request.userWallet)]
  decode? tree := do
    let record ← Record.ofTree? [⟨"payment", false⟩, ⟨"return_url", false⟩,
      ⟨"price_value", false⟩, ⟨"price_currency", false⟩, ⟨"reference", false⟩, ⟨"method", false⟩,
      ⟨"wallet_address", false⟩, ⟨"origin", false⟩, ⟨"domain", false⟩, ⟨"metadata", false⟩,
      ⟨"sku", false⟩, ⟨"callback_url", false⟩, ⟨"type", false⟩, ⟨"developer_wallet", false⟩,
      ⟨"store_wallet", false⟩, ⟨"oem_wallet", false⟩, ⟨"user_wallet", false⟩] tree
    let payment ← record.required "payment" Tree.payloadField?
    let returnUrl ← record.required "return_url" Tree.text?
    let priceValue ← record.required "price_value" Tree.decimal?
    let priceCurrency ← record.required "price_currency" Tree.text?
    let reference ← record.optional "reference" Tree.text?
    let method ← record.required "method" Tree.text?
    let walletAddress ← record.required "wallet_address" Tree.text?
    let origin ← record.optional "origin" Tree.text?
    let domain ← record.required "domain" Tree.text?
    let metadata ← record.optional "metadata" Tree.text?
    let sku ← record.optional "sku" Tree.text?
    let callbackUrl ← record.optional "callback_url" Tree.text?
    let transactionType ← record.required "type" Tree.text?
    let developerWallet ← record.optional "developer_wallet" Tree.text?
    let storeWallet ← record.optional "store_wallet" Tree.text?
    let oemWallet ← record.optional "oem_wallet" Tree.text?
    let userWallet ← record.optional "user_wallet" Tree.text?
    return {
      payment, returnUrl, priceValue, priceCurrency, reference, method, walletAddress, origin,
      domain, metadata, sku, callbackUrl, transactionType, developerWallet, storeWallet, oemWallet,
      userWallet }

instance : Wire PaymentReply where
  encode reply := .object [
    ("uid", optionalText reply.uid),
    ("status", Value.optional encode reply.status),
    ("result_code", optionalText reply.resultCode),
    ("action", Value.optional encode reply.action),
    ("refusal_reason", optionalText reply.refusalReason),
    ("refusal_code", Value.optional (fun code => .number (.integer code.toInt)) reply.refusalCode),
    ("error", optionalText reply.error),
    ("hash", optionalText reply.hash),
    ("order_reference", optionalText reply.orderReference)]
  decode? tree := do
    let record ← Record.ofTree? [⟨"uid", false⟩, ⟨"status", false⟩, ⟨"result_code", false⟩,
      ⟨"action", false⟩, ⟨"refusal_reason", false⟩, ⟨"refusal_code", false⟩, ⟨"error", false⟩,
      ⟨"hash", false⟩, ⟨"order_reference", false⟩] tree
    let uid ← record.optional "uid" Tree.text?
    let status ← record.optional "status" decode?
    let resultCode ← record.optional "result_code" Tree.text?
    let action ← record.optional "action" decode?
    let refusalReason ← record.optional "refusal_reason" Tree.text?
    let refusalCode ← record.optional "refusal_code" Tree.int32?
    let error ← record.optional "error" Tree.text?
    let hash ← record.optional "hash" Tree.text?
    let orderReference ← record.optional "order_reference" Tree.text?
    return {
      uid, status, resultCode, action, refusalReason, refusalCode, error, hash, orderReference }

instance : Wire TransactionUpdate where
  encode update := .object [
    ("uid", .string update.uid),
    ("status", encode update.status),
    ("hash", optionalText update.hash),
    ("order_reference", optionalText update.orderReference)]
  decode? tree := do
    let record ← Record.ofTree?
      [⟨"uid", false⟩, ⟨"status", false⟩, ⟨"hash", true⟩, ⟨"order_reference", true⟩] tree
    let uid ← record.required "uid" Tree.text?
    let status ← record.required "status" decode?
    let hash ← record.optional "hash" Tree.text?
    let orderReference ← record.optional "order_reference" Tree.text?
    return { uid, status, hash, orderReference }

instance : Wire PaymentInfo where
  encode info := .object [
    ("payment_methods", info.paymentMethods),
    ("price_value", decimal info.priceValue),
    ("price_currency", .string info.priceCurrency),
    ("is_stored", .bool info.isStored)]
  decode? tree := do
    let record ← Record.ofTree? [⟨"payment_methods", false⟩, ⟨"price_value", false⟩,
      ⟨"price_currency", false⟩, ⟨"is_stored", true⟩] tree
    let paymentMethods ← record.required "payment_methods" Tree.payloadField?
    let priceValue ← record.required "price_value" Tree.decimal?
    let priceCurrency ← record.required "price_currency" Tree.text?
    let isStored ← record.orElse "is_stored" Tree.flag? false
    return { paymentMethods, priceValue, priceCurrency, isStored }

end WalletTopUp
