import CoinWallet.Session.Inquiry
import CoinWallet.Session.Refresh
import CoinWallet.Session.Send

set_option autoImplicit false

/-!
A manager and the calls made to it. Calls run side by side: each action takes one call one step
further, and the actions of different calls may follow each other in any order.
-/

namespace CoinWallet

inductive Call
  | refresh (r : Refresh)
  | send (s : Send)
  | fee (i : FeeInquiry)
  | signatureCount (i : CountInquiry)
  | tokens (i : TokenSearch)

namespace Call

def step? (m : Manager) (now : Moment) (id : CallId) (event : Event) :
    Call → Option (Manager × Call)
  | refresh r => (r.step? m now id event).map fun (m, r) => (m, refresh r)
  | send s => (s.step? m id event).map fun (m, s) => (m, send s)
  | fee i => (i.step? m now event).map fun (m, i) => (m, fee i)
  | signatureCount i => (i.step? m event).map fun (m, i) => (m, signatureCount i)
  | tokens i => (i.step? m event).map fun (m, i) => (m, tokens i)

end Call

inductive Demand
  | refresh (forced : Bool)
  | send (payload : Payload)
  | fee (amount : Amount) (destination : String)
  | signatureCount (expected : UInt64)
  | tokens

def Demand.call : Demand → Call
  | refresh forced => .refresh (.called forced)
  | send payload => .send (.called payload)
  | fee amount destination => .fee (.called amount destination)
  | signatureCount expected => .signatureCount (.called expected)
  | tokens => .tokens .called

-- calls have their place in the list as their number
structure Session where
  manager : Manager
  calls : List Call := []

inductive Action
  | make (demand : Demand)
  | step (id : CallId) (event : Event)
  | addToken (t : Token)
  | removeToken (t : Token)
  | shutDown

namespace Session

def make (s : Session) (demand : Demand) : Session :=
  { s with calls := s.calls ++ [demand.call] }

def step? (s : Session) (now : Moment) (id : CallId) (event : Event) : Option Session := do
  let call ← s.calls[id]?
  let (manager, call) ← call.step? s.manager now id event
  return { manager := manager, calls := s.calls.set id call }

def act? (s : Session) (now : Moment) : Action → Option Session
  | .make demand => some (s.make demand)
  | .step id event => s.step? now id event
  | .addToken t => some { s with manager := s.manager.addToken t }
  | .removeToken t => some { s with manager := s.manager.removeToken t }
  | .shutDown => some { s with manager := s.manager.shutDown }

def run? (s : Session) (actions : List (Moment × Action)) : Option Session :=
  actions.foldlM (fun s (now, action) => s.act? now action) s

end Session

end CoinWallet
