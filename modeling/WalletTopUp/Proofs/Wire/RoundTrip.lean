import WalletTopUp.Proofs.Decimal.RoundTrip
import WalletTopUp.Proofs.Json.Records
import WalletTopUp.Proofs.Json.RoundTrip
import WalletTopUp.Wire.Bonus
import WalletTopUp.Wire.Money
import WalletTopUp.Wire.Payment

/-!
# Wire types survive the wire

What is written for a value of a wire type is read as this value again, and so is every text that
says the same with its keys in another order or with unknown keys among them
(`wire_types_survive`).  Texts, decimals and integers come back as they are; what is absent comes
back as absent; and a payload that is passed on unread comes back unchanged if its numbers are
integers, its keys are in order and it is not nested too deep.
-/

namespace WalletTopUp

open Json

variable {levels : Nat} {tree : Tree}

namespace Json

/-! ## The contents of a field -/

/-- A text is read from whatever respells it. -/
theorem text?_of_respelled {text : String}
    (respelled : (Value.string text).tree.Respelled levels tree) : tree.text? = some text := by
  rw [Tree.eq_of_respelled (by rintro _ ⟨⟩) respelled]
  rfl

/-- A truth value is read from whatever respells it. -/
theorem flag?_of_respelled {value : Bool}
    (respelled : (Value.bool value).tree.Respelled levels tree) : tree.flag? = some value := by
  rw [Tree.eq_of_respelled (by rintro _ ⟨⟩) respelled]
  rfl

/-- A decimal is written as a text, so it is read with all of its scale. -/
theorem decimal?_of_respelled {value : Decimal}
    (respelled : (decimal value).tree.Respelled levels tree) : tree.decimal? = some value := by
  rw [Tree.eq_of_respelled (by rintro _ ⟨⟩) respelled]
  exact Decimal.ofText?_toText value

/-- A 32 bit code lies within the bounds of 32 bit integers. -/
theorem int32_bounds (code : Int32) :
    -(twoPow 31 : Int) ≤ code.toInt ∧ code.toInt < twoPow 31 :=
  ⟨code.le_toInt, code.toInt_lt⟩

/-- A 32 bit code fits into one machine word, so it is written exactly. -/
theorem isWord_int32 (code : Int32) : (Value.number (.integer code.toInt)).isWord = true := by
  obtain ⟨low, high⟩ := int32_bounds code
  have larger : twoPow 31 ≤ twoPow 63 ∧ twoPow 31 ≤ twoPow 64 := by decide
  simp only [Value.isWord, Bool.and_eq_true, decide_eq_true_eq]
  omega

/-- A 32 bit code is read from whatever respells it. -/
theorem int32?_of_respelled {code : Int32}
    (respelled : (Value.number (.integer code.toInt)).tree.Respelled levels tree) :
    tree.int32? = some code := by
  have word := isWord_int32 code
  simp only [Value.isWord, Bool.and_eq_true, decide_eq_true_eq] at word
  rw [Tree.eq_of_respelled (by rintro _ ⟨⟩) respelled]
  simp only [Value.tree, Number.literal, Tree.int32?, Literal.value?_ofInteger word.1 word.2,
    int32_bounds code, and_self, if_true, Int32.ofInt_toInt]

/-- A payload that is passed on unread as a field of a record: its numbers are integers of 64 bits,
its objects have their keys in order, and it does not nest deeper than what is read. -/
structure Value.IsPayload (value : Value) : Prop where
  words : value.everywhere isWord = true
  ordered : value.everywhere isOrdered = true
  shallow : value.tree.depth ≤ maxDepth - 1

/-- A payload is taken over as it stands, whatever the provider has put into it. -/
theorem payloadField?_tree {value : Value} (payload : value.IsPayload) :
    value.tree.payloadField? = some value := by
  rw [Tree.payloadField?, Tree.payload?, if_pos payload.shallow,
    Value.value?_tree payload.words payload.ordered]

namespace Record.Finds

variable {record : Record} {name : String}

/-- A text that a record holds is read from its required field. -/
theorem text {text : String} (finds : record.Finds levels name (.string text)) :
    record.required name Tree.text? = some text :=
  finds.required fun _ => text?_of_respelled

/-- A decimal that a record holds is read from its required field. -/
theorem decimal {value : Decimal} (finds : record.Finds levels name (Json.decimal value)) :
    record.required name Tree.decimal? = some value :=
  finds.required fun _ => decimal?_of_respelled

/-- A text that may be absent is read from its optional field, absent or not. -/
theorem optionalText {text : Option String}
    (finds : record.Finds levels name (WalletTopUp.optionalText text)) :
    record.optional name Tree.text? = some text :=
  finds.optional rfl fun _ _ => text?_of_respelled

/-- A decimal that may be absent is read from its optional field, absent or not. -/
theorem optionalDecimal {value : Option Decimal}
    (finds : record.Finds levels name (Value.optional Json.decimal value)) :
    record.optional name Tree.decimal? = some value :=
  finds.optional rfl fun _ _ => decimal?_of_respelled

end Record.Finds

end Json

/-! ## Surviving the wire -/

namespace Json.Wire

variable {α : Type} [Wire α]

/-- A value survives the wire: what is written for it is read as the value, and so is every text
that says the same with the fields of the type's own objects, which are those inside fewer brackets
than `levels`, in another order and with unknown fields among them. -/
structure Survives (levels : Nat) (value : α) : Prop where
  written : Json.parse? (render value) = some (encode value).tree
  readBack : parse? (render value) = some value
  respelled : ∀ text tree, Json.parse? text = some tree →
    (encode value).tree.Respelled levels tree → parse? text = some value

/-- What is read back from every respelling survives, since rendering it and parsing the text gives
one of them. -/
theorem survives_of_decode {value : α}
    (words : (encode value).everywhere Value.isWord = true)
    (decodes : ∀ tree, (encode value).tree.Respelled levels tree → decode? tree = some value) :
    Survives levels value := by
  have written := parse?_render words
  refine ⟨written, ?_, fun text tree parsed respelled => ?_⟩
  · rw [parse?, render, written]
    exact decodes _ (Tree.respelled_refl levels _)
  · rw [parse?, parsed]
    exact decodes tree respelled

end Json.Wire

namespace Json

/-! ## The numbers that are written -/

/-- What may be absent is written exactly if what is inside is. -/
theorem isWord_optional {content : Option α} {write : α → Value}
    (words : ∀ inside, (write inside).everywhere Value.isWord = true) :
    (Value.optional write content).everywhere Value.isWord = true := by
  cases content with
  | none => rfl
  | some inside => exact words inside

/-- A text that may be absent holds no number. -/
theorem isWord_optionalText (text : Option String) :
    (optionalText text).everywhere Value.isWord = true := isWord_optional fun _ => rfl

/-- A decimal that may be absent is written as a text, so it holds no number. -/
theorem isWord_optionalDecimal (value : Option Decimal) :
    (Value.optional decimal value).everywhere Value.isWord = true := isWord_optional fun _ => rfl

/-- The numbers of an object are integers of 64 bits if those of its fields are. -/
theorem isWord_object {fields : List (String × Value)}
    (words : ∀ field ∈ fields, field.2.everywhere Value.isWord = true) :
    (Value.object fields).everywhere Value.isWord = true := by
  rw [Value.everywhere, fieldsEverywhere_iff.mpr words]
  rfl

end Json

/-! ## Reading a value back -/

/-- A quote is read from every respelling of it. -/
theorem Quote.decode?_of_respelled {quote : Quote}
    (respelled : (encode quote).tree.Respelled (levels + 1) tree) : decode? tree = some quote := by
  refine Record.read_of_respelled rfl (by decide) respelled fun record finds => ?_
  simp only [List.forall_mem_cons] at finds
  obtain ⟨value, currency, symbol, _⟩ := finds
  simp only [value.decimal, currency.text, symbol.text, Option.bind_eq_bind, Option.bind_some]
  rfl

/-- A quote survives on the wire. -/
theorem Quote.survives (quote : Quote) : Wire.Survives 1 quote :=
  Wire.survives_of_decode rfl fun _ => decode?_of_respelled

/-- Money is read from every respelling of it. -/
theorem Money.decode?_of_respelled {money : Money}
    (respelled : (encode money).tree.Respelled (levels + 1) tree) : decode? tree = some money := by
  refine Record.read_of_respelled rfl (by decide) respelled fun record finds => ?_
  simp only [List.forall_mem_cons] at finds
  obtain ⟨amount, currency, symbol, _⟩ := finds
  simp only [amount.decimal, currency.text, symbol.text, Option.bind_eq_bind, Option.bind_some]
  rfl

/-- Money survives on the wire. -/
theorem Money.survives (money : Money) : Wire.Survives 1 money :=
  Wire.survives_of_decode rfl fun _ => decode?_of_respelled

/-- Limits are read from every respelling, of both bounds as well. -/
theorem TopUpLimits.decode?_of_respelled {limits : TopUpLimits}
    (respelled : (encode limits).tree.Respelled (levels + 2) tree) :
    decode? tree = some limits := by
  refine Record.read_of_respelled rfl (by decide) respelled fun record finds => ?_
  simp only [List.forall_mem_cons] at finds
  obtain ⟨min, max, _⟩ := finds
  simp only [min.required fun _ => Money.decode?_of_respelled,
    max.required fun _ => Money.decode?_of_respelled, Option.bind_eq_bind, Option.bind_some]
  rfl

/-- Limits survive on the wire. -/
theorem TopUpLimits.survives (limits : TopUpLimits) : Wire.Survives 2 limits :=
  Wire.survives_of_decode rfl fun _ => decode?_of_respelled

/-- A payment method is read from every respelling of it, with and without its bounds. -/
theorem PaymentMethod.decode?_of_respelled {method : PaymentMethod}
    (respelled : (encode method).tree.Respelled (levels + 1) tree) :
    decode? tree = some method := by
  refine Record.read_of_respelled rfl (by decide) respelled fun record finds => ?_
  simp only [List.forall_mem_cons] at finds
  obtain ⟨id, label, iconUrl, minAmount, maxAmount, _⟩ := finds
  simp only [id.text, label.text, iconUrl.optionalText, minAmount.optionalDecimal,
    maxAmount.optionalDecimal, Option.bind_eq_bind, Option.bind_some]
  rfl

/-- A payment method survives on the wire. -/
theorem PaymentMethod.survives (method : PaymentMethod) : Wire.Survives 1 method := by
  refine Wire.survives_of_decode (isWord_object ?_) fun _ => decode?_of_respelled
  simp only [List.forall_mem_cons]
  exact ⟨rfl, rfl, isWord_optionalText _, isWord_optionalDecimal _, isWord_optionalDecimal _, nofun⟩

/-- A status is read from its name, and the one for unknown names too. -/
theorem TransactionStatus.decode?_of_respelled {status : TransactionStatus}
    (respelled : (encode status).tree.Respelled levels tree) : decode? tree = some status := by
  rw [Tree.eq_of_respelled (by rintro _ ⟨⟩) respelled]
  exact congrArg some (ofName_name status)

/-- A status survives on the wire. -/
theorem TransactionStatus.survives (status : TransactionStatus) : Wire.Survives 0 status :=
  Wire.survives_of_decode rfl fun _ => decode?_of_respelled

/-- The kind of an action is read from its name, and the one for unknown names too. -/
theorem ActionKind.decode?_of_respelled {kind : ActionKind}
    (respelled : (encode kind).tree.Respelled levels tree) : decode? tree = some kind := by
  rw [Tree.eq_of_respelled (by rintro _ ⟨⟩) respelled]
  exact congrArg some (ofName_name kind)

/-- The kind of an action survives on the wire. -/
theorem ActionKind.survives (kind : ActionKind) : Wire.Survives 0 kind :=
  Wire.survives_of_decode rfl fun _ => decode?_of_respelled

/-- An action is read from every respelling of it. -/
theorem PaymentAction.decode?_of_respelled {action : PaymentAction}
    (respelled : (encode action).tree.Respelled (levels + 1) tree) :
    decode? tree = some action := by
  refine Record.read_of_respelled rfl (by decide) respelled fun record finds => ?_
  simp only [List.forall_mem_cons] at finds
  obtain ⟨kind, url, method, paymentData, _⟩ := finds
  simp only [kind.required fun _ => ActionKind.decode?_of_respelled, url.optionalText,
    method.optionalText, paymentData.optionalText, Option.bind_eq_bind, Option.bind_some]
  rfl

/-- The numbers that an action holds are 32 bit codes, which are written exactly. -/
theorem PaymentAction.isWord_encode (action : PaymentAction) :
    (encode action).everywhere Value.isWord = true := by
  refine isWord_object ?_
  simp only [List.forall_mem_cons]
  exact ⟨rfl, isWord_optionalText _, isWord_optionalText _, isWord_optionalText _, nofun⟩

/-- An action survives on the wire. -/
theorem PaymentAction.survives (action : PaymentAction) : Wire.Survives 1 action :=
  Wire.survives_of_decode action.isWord_encode fun _ => decode?_of_respelled

/-- The payload of a request is no object of the request's own: it stands as it is. -/
theorem PaymentRequest.decode?_of_respelled {request : PaymentRequest}
    (payload : request.payment.IsPayload)
    (respelled : (encode request).tree.Respelled 1 tree) : decode? tree = some request := by
  refine Record.read_of_respelled rfl (by decide) respelled fun record finds => ?_
  simp only [List.forall_mem_cons] at finds
  obtain ⟨payment, returnUrl, priceValue, priceCurrency, reference, method, walletAddress, origin,
    domain, metadata, sku, callbackUrl, transactionType, developerWallet, storeWallet, oemWallet,
    userWallet, _⟩ := finds
  have unread : record.required "payment" Tree.payloadField? = some request.payment :=
    payment.required fun other same => by
      cases same
      exact payloadField?_tree payload
  simp only [unread, returnUrl.text, priceValue.decimal, priceCurrency.text,
    reference.optionalText, method.text, walletAddress.text, origin.optionalText, domain.text,
    metadata.optionalText, sku.optionalText, callbackUrl.optionalText, transactionType.text,
    developerWallet.optionalText, storeWallet.optionalText, oemWallet.optionalText,
    userWallet.optionalText, Option.bind_eq_bind, Option.bind_some]
  rfl

/-- A payment request survives on the wire with whatever payload it carries. -/
theorem PaymentRequest.survives (request : PaymentRequest) (payload : request.payment.IsPayload) :
    Wire.Survives 1 request := by
  refine Wire.survives_of_decode (isWord_object ?_) fun _ => decode?_of_respelled payload
  simp only [List.forall_mem_cons]
  exact ⟨payload.words, rfl, rfl, rfl, isWord_optionalText _, rfl, rfl, isWord_optionalText _, rfl,
    isWord_optionalText _, isWord_optionalText _, isWord_optionalText _, rfl, isWord_optionalText _,
    isWord_optionalText _, isWord_optionalText _, isWord_optionalText _, nofun⟩

/-- A reply is read from every respelling, of the action inside as well. -/
theorem PaymentReply.decode?_of_respelled {reply : PaymentReply}
    (respelled : (encode reply).tree.Respelled (levels + 2) tree) : decode? tree = some reply := by
  refine Record.read_of_respelled rfl (by decide) respelled fun record finds => ?_
  simp only [List.forall_mem_cons] at finds
  obtain ⟨uid, status, resultCode, action, refusalReason, refusalCode, error, hash, orderReference,
    _⟩ := finds
  simp only [uid.optionalText, resultCode.optionalText, refusalReason.optionalText,
    error.optionalText, hash.optionalText, orderReference.optionalText,
    status.optional rfl fun _ _ => TransactionStatus.decode?_of_respelled,
    action.optional rfl fun _ _ => PaymentAction.decode?_of_respelled,
    refusalCode.optional rfl fun _ _ => int32?_of_respelled, Option.bind_eq_bind, Option.bind_some]
  rfl

/-- A reply survives on the wire. -/
theorem PaymentReply.survives (reply : PaymentReply) : Wire.Survives 2 reply := by
  refine Wire.survives_of_decode (isWord_object ?_) fun _ => decode?_of_respelled
  simp only [List.forall_mem_cons]
  exact ⟨isWord_optionalText _, isWord_optional fun _ => rfl, isWord_optionalText _,
    isWord_optional PaymentAction.isWord_encode, isWord_optionalText _,
    isWord_optional isWord_int32, isWord_optionalText _, isWord_optionalText _,
    isWord_optionalText _, nofun⟩

/-- An update of a transaction is read from every respelling of it. -/
theorem TransactionUpdate.decode?_of_respelled {update : TransactionUpdate}
    (respelled : (encode update).tree.Respelled (levels + 1) tree) :
    decode? tree = some update := by
  refine Record.read_of_respelled rfl (by decide) respelled fun record finds => ?_
  simp only [List.forall_mem_cons] at finds
  obtain ⟨uid, status, hash, orderReference, _⟩ := finds
  simp only [uid.text, status.required fun _ => TransactionStatus.decode?_of_respelled,
    hash.optionalText, orderReference.optionalText, Option.bind_eq_bind, Option.bind_some]
  rfl

/-- An update of a transaction survives on the wire. -/
theorem TransactionUpdate.survives (update : TransactionUpdate) : Wire.Survives 1 update := by
  refine Wire.survives_of_decode (isWord_object ?_) fun _ => decode?_of_respelled
  simp only [List.forall_mem_cons]
  exact ⟨rfl, rfl, isWord_optionalText _, isWord_optionalText _, nofun⟩

/-- A payment's details are read from every respelling of them; its payload stands as it is. -/
theorem PaymentInfo.decode?_of_respelled {info : PaymentInfo}
    (payload : info.paymentMethods.IsPayload)
    (respelled : (encode info).tree.Respelled 1 tree) : decode? tree = some info := by
  refine Record.read_of_respelled rfl (by decide) respelled fun record finds => ?_
  simp only [List.forall_mem_cons] at finds
  obtain ⟨paymentMethods, priceValue, priceCurrency, isStored, _⟩ := finds
  have unread : record.required "payment_methods" Tree.payloadField? = some info.paymentMethods :=
    paymentMethods.required fun other same => by
      cases same
      exact payloadField?_tree payload
  simp only [unread, priceValue.decimal, priceCurrency.text,
    isStored.orElse fun _ => flag?_of_respelled, Option.bind_eq_bind, Option.bind_some]
  rfl

/-- A payment's details survive on the wire, with its payload. -/
theorem PaymentInfo.survives (info : PaymentInfo) (payload : info.paymentMethods.IsPayload) :
    Wire.Survives 1 info := by
  refine Wire.survives_of_decode (isWord_object ?_) fun _ => decode?_of_respelled payload
  simp only [List.forall_mem_cons]
  exact ⟨payload.words, rfl, rfl, rfl, nofun⟩

/-- The status of a bonus is known by its name. -/
theorem BonusStatus.ofName?_name (status : BonusStatus) : ofName? status.name = some status := by
  cases status <;> rfl

/-- The status of a bonus is read from its name. -/
theorem BonusStatus.decode?_of_respelled {status : BonusStatus}
    (respelled : (encode status).tree.Respelled levels tree) : decode? tree = some status := by
  rw [Tree.eq_of_respelled (by rintro _ ⟨⟩) respelled]
  exact ofName?_name status

/-- The status of a bonus survives on the wire. -/
theorem BonusStatus.survives (status : BonusStatus) : Wire.Survives 0 status :=
  Wire.survives_of_decode rfl fun _ => decode?_of_respelled

/-- A forecast is read from every respelling of it. -/
theorem BonusForecast.decode?_of_respelled {bonus : BonusForecast}
    (respelled : (encode bonus).tree.Respelled (levels + 1) tree) : decode? tree = some bonus := by
  refine Record.read_of_respelled rfl (by decide) respelled fun record finds => ?_
  simp only [List.forall_mem_cons] at finds
  obtain ⟨status, amount, currency, _⟩ := finds
  simp only [status.required fun _ => BonusStatus.decode?_of_respelled, amount.decimal,
    currency.orElse fun _ => text?_of_respelled, Option.bind_eq_bind, Option.bind_some]
  rfl

/-- A forecast survives on the wire. -/
theorem BonusForecast.survives (bonus : BonusForecast) : Wire.Survives 1 bonus :=
  Wire.survives_of_decode rfl fun _ => decode?_of_respelled

/-- The role of a partner is known by its name. -/
theorem PartnerRole.ofName?_name (role : PartnerRole) : ofName? role.name = some role := by
  cases role <;> rfl

/-- The role of a partner is read from its name. -/
theorem PartnerRole.decode?_of_respelled {role : PartnerRole}
    (respelled : (encode role).tree.Respelled levels tree) : decode? tree = some role := by
  rw [Tree.eq_of_respelled (by rintro _ ⟨⟩) respelled]
  exact ofName?_name role

/-- The role of a partner survives on the wire. -/
theorem PartnerRole.survives (role : PartnerRole) : Wire.Survives 0 role :=
  Wire.survives_of_decode rfl fun _ => decode?_of_respelled

/-- The address of a partner is read from every respelling of it. -/
theorem PartnerAddress.decode?_of_respelled {partner : PartnerAddress}
    (respelled : (encode partner).tree.Respelled (levels + 1) tree) :
    decode? tree = some partner := by
  refine Record.read_of_respelled rfl (by decide) respelled fun record finds => ?_
  simp only [List.forall_mem_cons] at finds
  obtain ⟨address, _⟩ := finds
  simp only [address.text, Option.bind_eq_bind, Option.bind_some]
  rfl

/-- The address of a partner survives on the wire. -/
theorem PartnerAddress.survives (partner : PartnerAddress) : Wire.Survives 1 partner :=
  Wire.survives_of_decode rfl fun _ => decode?_of_respelled

/-- **Wire types survive the wire.**  For every value of every wire type, whatever its texts,
decimals and options are: the text that is written for it is read as this very value.  So is every
text whose keys stand in another order or that has unknown keys, in the objects of the type and of
the records inside it.  A payload that is passed on unread is no object of the type: it has to stand
as it is, to hold no numbers but integers of 64 bits and to nest less deep than what is read. -/
theorem wire_types_survive :
    (∀ quote : Quote, Wire.Survives 1 quote)
      ∧ (∀ money : Money, Wire.Survives 1 money)
      ∧ (∀ limits : TopUpLimits, Wire.Survives 2 limits)
      ∧ (∀ method : PaymentMethod, Wire.Survives 1 method)
      ∧ (∀ status : TransactionStatus, Wire.Survives 0 status)
      ∧ (∀ kind : ActionKind, Wire.Survives 0 kind)
      ∧ (∀ action : PaymentAction, Wire.Survives 1 action)
      ∧ (∀ request : PaymentRequest, request.payment.IsPayload → Wire.Survives 1 request)
      ∧ (∀ reply : PaymentReply, Wire.Survives 2 reply)
      ∧ (∀ update : TransactionUpdate, Wire.Survives 1 update)
      ∧ (∀ info : PaymentInfo, info.paymentMethods.IsPayload → Wire.Survives 1 info)
      ∧ (∀ status : BonusStatus, Wire.Survives 0 status)
      ∧ (∀ bonus : BonusForecast, Wire.Survives 1 bonus)
      ∧ (∀ role : PartnerRole, Wire.Survives 0 role)
      ∧ (∀ partner : PartnerAddress, Wire.Survives 1 partner) :=
  ⟨Quote.survives, Money.survives, TopUpLimits.survives, PaymentMethod.survives,
    TransactionStatus.survives, ActionKind.survives, PaymentAction.survives,
    PaymentRequest.survives, PaymentReply.survives, TransactionUpdate.survives,
    PaymentInfo.survives, BonusStatus.survives, BonusForecast.survives, PartnerRole.survives,
    PartnerAddress.survives⟩

/-! ## A text whose keys stand in another order -/

/-- How a payment would look whose methods are passed on unread. -/
def PaymentInfo.Sample.info : PaymentInfo where
  paymentMethods := .object [("brands", .array [.string "visa", .number (.integer (-3))])]
  priceValue := .one
  priceCurrency := "EUR"
  isStored := true

/-- The same with the price in front and an unknown field at the end. -/
def PaymentInfo.Sample.respelled : Value := .object [
  ("price_value", decimal Sample.info.priceValue),
  ("payment_methods", Sample.info.paymentMethods),
  ("price_currency", .string "EUR"),
  ("is_stored", .bool true),
  ("discount", .null)]

theorem wire_types_survive_of_respelled_info :
    PaymentInfo.Sample.info.paymentMethods.IsPayload
      ∧ Wire.parse? (Wire.render PaymentInfo.Sample.info) = some PaymentInfo.Sample.info
      ∧ Wire.parse? PaymentInfo.Sample.respelled.render = some PaymentInfo.Sample.info := by
  have payload : PaymentInfo.Sample.info.paymentMethods.IsPayload := ⟨rfl, rfl, by decide⟩
  have survives : Wire.Survives 1 PaymentInfo.Sample.info :=
    wire_types_survive.2.2.2.2.2.2.2.2.2.2.1 _ payload
  refine ⟨payload, survives.readBack, survives.respelled _ _ (parse?_render rfl) ?_⟩
  refine ⟨_, [(some "discount", .null)], ?_,
    List.forall₂_same.mpr fun _ _ => ⟨rfl, Tree.respelled_refl 0 _⟩, ?_⟩
  · exact .swap _ _ _
  · simp [fieldTrees]

end WalletTopUp
