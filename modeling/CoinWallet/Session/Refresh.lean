import CoinWallet.Session.Event

set_option autoImplicit false

/-!
A refresh of the wallet, step by step. It waits for its turn, may find that it is not needed, asks
the network for the state of the wallet as it is then, and only a complete answer is written.
-/

namespace CoinWallet

inductive Refresh
  | called (forced : Bool)
  | waiting (forced : Bool)
  | entered
  | asking (fetch : Fetch Update)
  | fetched (update : Update)
  -- the operation is over, and the phase has to go back
  | leaving (r : Outcome ManagerError Unit)
  -- the turn has to be given up
  | left (r : Outcome ManagerError Unit)
  | finished (r : Outcome ManagerError Invocation)

namespace Refresh

def proceed? (m : Manager) (now : Moment) (id : CallId) : Refresh → Option (Manager × Refresh)
  | called forced =>
    if m.isShutDown then some (m, finished (.fail .cancelled))
    else some ({ m with debouncer := m.debouncer.join id }, waiting forced)
  | waiting forced =>
    if m.debouncer.line.isHeldBy id then
      if m.debouncer.skips forced now.elapsed then
        some ({ m with debouncer := m.debouncer.leave id }, finished (.ok .skipped))
      else some (m, entered)
    else none
  | entered =>
    some ({ m with updatePhase := .updating }, asking (.ofPlan (m.chain.refreshPlan m.wallet)))
  | asking fetch =>
    fetch.result?.map fun r =>
      match r with
      | .ok update => (m, fetched update)
      | .error fault => (m, leaving (.error fault))
  | fetched update =>
    some ({ m with wallet := update.commit m.wallet now.date }, leaving (.ok ()))
  | leaving r => some ({ m with updatePhase := .idle }, left r)
  | left r =>
    some ({ m with debouncer := m.debouncer.complete id r.isOk now.elapsed },
      finished (r.map fun _ => .executed))
  | finished _ => none

def step? (m : Manager) (now : Moment) (id : CallId) (event : Event) (r : Refresh) :
    Option (Manager × Refresh) :=
  match event, r with
  | .proceed, r => r.proceed? m now id
  | .request member event, asking fetch =>
    (m.stepFetch? fetch member event).map fun (m, fetch) => (m, asking fetch)
  | .cancel, asking _ => if m.isShutDown then some (m, leaving (.fail .cancelled)) else none
  | _, _ => none

end Refresh

end CoinWallet
