import CoinWallet.Session.Event

set_option autoImplicit false

namespace CoinWallet

inductive FeeInquiry
  | called (amount : Amount) (destination : String)
  | asking (fetch : Fetch FeeOffer)
  | finished (r : Outcome ManagerError FeeOffer)

namespace FeeInquiry

def step? (m : Manager) (now : Moment) (event : Event) (i : FeeInquiry) :
    Option (Manager × FeeInquiry) :=
  match event, i with
  | .proceed, called amount destination =>
    if m.isShutDown then some (m, finished (.fail .cancelled))
    else
      match m.chain.feePlan m.builder m.wallet amount destination now.date with
      | .ok plan => some (m, asking (.ofPlan plan))
      | .error cause => some (m, finished (.fail cause))
  | .proceed, asking fetch => fetch.result?.map fun r => (m, finished r)
  | .request member event, asking fetch =>
    (m.stepFetch? fetch member event).map fun (m, fetch) => (m, asking fetch)
  | .cancel, asking _ => if m.isShutDown then some (m, finished (.fail .cancelled)) else none
  | _, _ => none

end FeeInquiry

inductive CountInquiry
  | called (expected : UInt64)
  | asking (expected : UInt64) (fetch : Fetch UInt64)
  | finished (r : Outcome ManagerError Unit)

namespace CountInquiry

def compare (expected : UInt64) (r : Outcome ManagerError UInt64) : Outcome ManagerError Unit := do
  let actual ← r
  if actual = expected then pure ()
  else .fail (.domain (.signatureCountMismatch expected actual))

def step? (m : Manager) (event : Event) (i : CountInquiry) : Option (Manager × CountInquiry) :=
  match event, i with
  | .proceed, called expected =>
    if m.isShutDown then some (m, finished (.fail .cancelled))
    else some (m, asking expected (.ofPlan (m.chain.signatureCountPlan m.wallet)))
  | .proceed, asking expected fetch =>
    fetch.result?.map fun r => (m, finished (compare expected r))
  | .request member event, asking expected fetch =>
    (m.stepFetch? fetch member event).map fun (m, fetch) => (m, asking expected fetch)
  | .cancel, asking _ _ => if m.isShutDown then some (m, finished (.fail .cancelled)) else none
  | _, _ => none

end CountInquiry

inductive TokenSearch
  | called
  | asking (address : String)
  | listed (tokens : List (Token × Decimal))
  | finished (r : Outcome ManagerError (List Token))

namespace TokenSearch

def step? (m : Manager) (event : Event) (i : TokenSearch) : Option (Manager × TokenSearch) :=
  match event, i with
  | .proceed, called =>
    if m.isShutDown then some (m, finished (.fail .cancelled))
    else if m.chain.supports .tokenFinder then some (m, asking m.wallet.primaryAddress)
    else some (m, finished (.fail (.capabilityNotSupported .tokenFinder)))
  | .listed (.ok found), asking _ => some (m, listed (Account.discovered found))
  | .listed (.error cause), asking _ => some (m, finished (.fail (.network cause)))
  | .proceed, listed tokens =>
    some ({ m with wallet := Account.adopt m.wallet tokens }, finished (.ok (tokens.map (·.1))))
  | .cancel, asking _ => if m.isShutDown then some (m, finished (.fail .cancelled)) else none
  | _, _ => none

end TokenSearch

end CoinWallet
