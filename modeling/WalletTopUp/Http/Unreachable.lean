import WalletTopUp.Http.Endpoint
import WalletTopUp.Service.Name
import WalletTopUp.Terminal.Config

/-!
# Services out of reach

What the program hears when it asks services that nobody runs.
-/

namespace WalletTopUp

/-- The address of the service that answers a request. -/
def Endpoints.baseOf (endpoints : Endpoints) : Request → Url
  | .quote _ _ _ => endpoints.broker
  | .partner _ _ => endpoints.partner
  | .forecast _ _ => endpoints.gamification
  | _ => endpoints.payment

namespace Http

/-- Every message finds nobody who listens.  A bonus is only asked for on behalf of a wallet. -/
def unreachable (config : Config) : Server := fun request =>
  match config.wallet, request with
  | none, .forecast package amount => Server.failing .noWallet (.forecast package amount)
  | wallet, request =>
    match Endpoint.of? (wallet.getD "") request with
    | none => Server.failing .noWallet request
    | some endpoint =>
      match endpoint.message (config.endpoints.baseOf request) with
      | .error error => Server.failing (.client error) request
      | .ok message => answer message .refused request

end Http

end WalletTopUp
