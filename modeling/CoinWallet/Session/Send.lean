import CoinWallet.Session.Event

set_option autoImplicit false

/-!
A payment, step by step: it waits for its turn, is built, signed and broadcast, and is recorded once
the network has taken it. The wallet it is built for is the one at the start of its turn.
-/

namespace CoinWallet

structure Payload where
  transaction : Transaction
  signsAll : Bool := false

structure Signing where
  payload : Payload
  snapshot : Wallet
  hashes : List Bytes

def Signing.asksForAll (s : Signing) : Bool :=
  s.payload.signsAll && decide (2 ≤ s.hashes.length)

inductive Send
  | called (payload : Payload)
  | waiting (payload : Payload)
  | entered (payload : Payload)
  | building (payload : Payload) (snapshot : Wallet)
  | signing (job : Signing) (signatures : List Bytes)
  | signed (job : Signing) (signatures : List Bytes)
  | sealing (job : Signing) (signatures : List Bytes)
  | broadcasting (payload : Payload) (fetch : Fetch String)
  | accepted (payload : Payload) (hash : String)
  -- the payment is over, and the phase has to go back
  | leaving (r : Outcome ManagerError Transaction)
  -- the turn has to be given up
  | left (r : Outcome ManagerError Transaction)
  | finished (r : Outcome ManagerError Transaction)

namespace Send

def proceed? (m : Manager) (id : CallId) : Send → Option (Manager × Send)
  | called payload =>
    if m.isShutDown then some (m, finished (.fail .cancelled))
    else some ({ m with sendLine := m.sendLine.join id }, waiting payload)
  | waiting payload => if m.sendLine.isHeldBy id then some (m, entered payload) else none
  | entered payload =>
    some ({ m with sendPhase := .building }, building payload m.wallet)
  | building payload snapshot =>
    match m.builder.buildForSign payload.transaction snapshot with
    | .error cause => some (m, leaving (.fail (.build cause)))
    | .ok [] => some (m, leaving (.fail (.build .nothingToSign)))
    | .ok hashes => some ({ m with sendPhase := .signing }, signing ⟨payload, snapshot, hashes⟩ [])
  | signed job signatures =>
    if signatures.length = job.hashes.length then
      some ({ m with sendPhase := .broadcasting }, sealing job signatures)
    else
      some (m, leaving (.fail (.signing
        (.unexpectedSignatureCount job.hashes.length signatures.length))))
  | sealing job signatures =>
    match m.builder.buildForSend job.payload.transaction job.snapshot signatures with
    | .error cause => some (m, leaving (.fail (.build cause)))
    | .ok bytes => some (m, broadcasting job.payload (.ofPlan (m.chain.broadcastPlan bytes)))
  | broadcasting payload fetch =>
    fetch.result?.map fun r =>
      match r with
      | .ok hash => (m, accepted payload hash)
      | .error fault => (m, leaving (.error fault))
  | accepted payload hash =>
    let sent := { payload.transaction with hash := some (Text.lower hash) }
    some ({ m with wallet := m.wallet.recordOutgoing sent }, leaving (.ok sent))
  | leaving r => some ({ m with sendPhase := .idle }, left r)
  | left r => some ({ m with sendLine := m.sendLine.leave id }, finished r)
  | signing _ _ | finished _ => none

def receive (m : Manager) (job : Signing) (signatures : List Bytes) :
    Except SignerError Bytes → Manager × Send
  | .error cause => (m, leaving (.fail (.signing cause)))
  | .ok signature =>
    let signatures := signatures ++ [signature]
    if signatures.length < job.hashes.length then (m, signing job signatures)
    else (m, signed job signatures)

def receiveAll (m : Manager) (job : Signing) : Except SignerError (List Bytes) → Manager × Send
  | .error cause => (m, leaving (.fail (.signing cause)))
  | .ok signatures => (m, signed job signatures)

def step? (m : Manager) (id : CallId) (event : Event) (s : Send) : Option (Manager × Send) :=
  match event, s with
  | .proceed, s => s.proceed? m id
  | .signed r, signing job signatures =>
    if job.asksForAll then none else some (receive m job signatures r)
  | .signedAll r, signing job _ => if job.asksForAll then some (receiveAll m job r) else none
  | .request member event, broadcasting payload fetch =>
    (m.stepFetch? fetch member event).map fun (m, fetch) => (m, broadcasting payload fetch)
  | .cancel, signing _ _ | .cancel, broadcasting _ _ =>
    if m.isShutDown then some (m, leaving (.fail .cancelled)) else none
  | _, _ => none

end Send

end CoinWallet
