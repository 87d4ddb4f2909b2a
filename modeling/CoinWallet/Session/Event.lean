import CoinWallet.Manager

set_option autoImplicit false

namespace CoinWallet

inductive Event
  | proceed
  | request (member : Nat) (event : Fetch.Event)
  | signed (r : Except SignerError Bytes)
  | signedAll (r : Except SignerError (List Bytes))
  | listed (r : Except NetworkError (List (Token × Nat)))
  -- the call notices that the manager is shut down
  | cancel

namespace Manager

def stepFetch? {α : Type} (m : Manager) (fetch : Fetch α) (member : Nat) (event : Fetch.Event) :
    Option (Manager × Fetch α) :=
  (fetch.step? m.chain.providers m.cursor member event).map fun (fetch, cursor) =>
    ({ m with cursor := cursor }, fetch)

end Manager

end CoinWallet
