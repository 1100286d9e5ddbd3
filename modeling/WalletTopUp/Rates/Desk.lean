import WalletTopUp.Rates.Conversion
import WalletTopUp.Rates.Store
import WalletTopUp.Service.Exchange

/-!
# Conversions that share a store

At a desk conversions begin at any time and go on in any order, and one that is dropped does not go
on.  What a conversion hands to the store is found there at once.  How the store fares with writing
it down is heard later, and in the meantime the disk may become anything.
-/

namespace WalletTopUp

/-! ## The store as a service -/

namespace RateStore

/-- The store once a request has been made at some time. -/
def heed (store : RateStore) (time : Timestamp) : Request → RateStore
  | .saveRate key money => (store.save key (CachedRate.ofMoney money time)).2
  | _ => store

/-- A world in which the store says what it holds and others answer the rest. -/
def answering (store : RateStore) (others : Server) : Server := fun request =>
  match request with
  | .loadRate key => (store.load key).map fun found => found.map CachedRate.money
  | other => others other

/-- The store once the disk has become another one. -/
def onDisk (disk : Disk) : RateStore → RateStore
  | file cache _ => file cache disk
  | other => other

end RateStore

/-! ## Desks -/

/-- What a desk is asked for. -/
inductive Inquiry where
  | convert (amount source : String) (target : Option String) (scale : Nat)
  | tokenToLocal (amount : String) (scale : Nat)
  | etherToLocal (amount : String) (scale : Nat)
  | storedTokenToLocal (amount : String) (scale : Nat)
deriving DecidableEq, Inhabited

/-- The dialogue of an inquiry. -/
def Inquiry.dialogue (converter : Converter) : Inquiry → Dialogue ConversionResult
  | convert amount source target scale => Converter.convert amount source target scale
  | tokenToLocal amount scale => converter.tokenToLocal amount scale
  | etherToLocal amount scale => converter.etherToLocal amount scale
  | storedTokenToLocal amount scale => converter.storedTokenToLocal amount scale

namespace Desk

/-- An inquiry and how far it has got. -/
structure Entry where
  inquiry : Inquiry
  exchange : Exchange ConversionResult

/-- What can happen at a desk. -/
inductive Move where
  /-- An inquiry begins.  It gets the next number. -/
  | begin (inquiry : Inquiry)
  /-- An inquiry makes its next request. -/
  | ask (number : Nat) (time : Timestamp)
  /-- The request that an inquiry has made is answered. -/
  | answer (number : Nat) (others : Server)
  /-- The disk becomes another one. -/
  | write (disk : Disk)

end Desk

/-- A store and the inquiries that use it, in the order in which they began. -/
structure Desk where
  store : RateStore
  entries : List Desk.Entry := []

namespace Desk

/-- How conversions are made at a desk. -/
def converter (desk : Desk) : Converter := ⟨desk.store.isStore⟩

/-- The request that an inquiry makes next, and how far it has got then. -/
def ask? (desk : Desk) (number : Nat) : Option (Request × Exchange ConversionResult) :=
  desk.entries[number]?.bind fun entry =>
    entry.exchange.ask?.map fun (request, resume) => (request, resume number)

/-- The desk once an inquiry has got to an exchange. -/
def goOn (desk : Desk) (number : Nat) (exchange : Exchange ConversionResult) : Desk :=
  { desk with entries := desk.entries.modify number fun entry => { entry with exchange } }

/-- The desk after a move, `none` if the move is not possible. -/
def move (desk : Desk) : Move → Option Desk
  | .begin inquiry =>
    let entry : Entry := ⟨inquiry, .ready (inquiry.dialogue desk.converter)⟩
    some { desk with entries := desk.entries ++ [entry] }
  | .ask number time => (desk.ask? number).map fun (request, exchange) =>
      { desk.goOn number exchange with store := desk.store.heed time request }
  | .answer number others => desk.entries[number]?.map fun entry =>
      desk.goOn number (entry.exchange.hear number (desk.store.answering others))
  | .write disk => some { desk with store := desk.store.onDisk disk }

/-- What an inquiry is about. -/
def inquiry? (desk : Desk) (number : Nat) : Option Inquiry :=
  desk.entries[number]?.map Entry.inquiry

/-- The result of an inquiry, once it has one. -/
def result? (desk : Desk) (number : Nat) : Option ConversionResult :=
  desk.entries[number]?.bind fun entry => entry.exchange.result?

/-- What an inquiry for a stored conversion comes to when nothing else happens meanwhile. -/
def lookUp (desk : Desk) (amount : String) (scale : Nat) (others : Server) : ConversionResult :=
  (desk.converter.storedTokenToLocal amount scale).answeredBy (desk.store.answering others)

end Desk

end WalletTopUp
