import CoinWallet.Session.Basic
import CoinWallet.Session.Wait

set_option autoImplicit false

/-!
Calls that are dropped before they are over. Nobody learns what becomes of them, but what they hold
is given back: a place in line at once, and a turn on the way out that a failure takes.
-/

namespace CoinWallet

namespace Refresh

def drop (m : Manager) (id : CallId) : Refresh → Manager × Refresh
  | called _ => (m, finished (.fail .cancelled))
  | waiting _ => ({ m with debouncer := m.debouncer.leave id }, finished (.fail .cancelled))
  | entered => (m, left (.fail .cancelled))
  | asking _ | fetched _ => (m, leaving (.fail .cancelled))
  -- it is on its way out already
  | r => (m, r)

end Refresh

namespace Send

def drop (m : Manager) (id : CallId) : Send → Manager × Send
  | called _ => (m, finished (.fail .cancelled))
  | waiting _ => ({ m with sendLine := m.sendLine.leave id }, finished (.fail .cancelled))
  | entered _ => (m, left (.fail .cancelled))
  | building _ _ | signing _ _ | signed _ _ | sealing _ _ | broadcasting _ _ | accepted _ _ =>
    (m, leaving (.fail .cancelled))
  | s => (m, s)

end Send

namespace Call

def drop (m : Manager) (id : CallId) : Call → Manager × Call
  | refresh r => ((r.drop m id).1, refresh (r.drop m id).2)
  | send s => ((s.drop m id).1, send (s.drop m id).2)
  | fee _ => (m, fee (.finished (.fail .cancelled)))
  | signatureCount _ => (m, signatureCount (.finished (.fail .cancelled)))
  | tokens _ => (m, tokens (.finished (.fail .cancelled)))

end Call

def Session.drop? (s : Session) (id : CallId) : Option Session := do
  let call ← s.calls[id]?
  if call.result?.isSome then none
  else
    let (manager, call) := call.drop s.manager id
    some { manager := manager, calls := s.calls.set id call }

end CoinWallet
