import CoinWallet.Session.Wait
import CoinWallet.Simulation.Clock

set_option autoImplicit false

namespace CoinWallet.Simulation

inductive Contact
  | query (provider : Nat) (q : Query)
  | sign (hash : Bytes)
  | signAll (count : Nat)
  | listTokens (address : String)

structure Network (ν : Type) where
  delay : ν → (provider : Nat) → Nat
  answer : (provider : Nat) → (q : Query) → ν → Outcome NetworkError q.Reply × ν
  tokens : ν → Except NetworkError (List (Token × Nat))

structure Signer where
  delay : Nat := 0
  sign : (asked : Nat) → Bytes → Except SignerError Bytes
  gather : List Bytes → List Bytes := fun signatures => signatures

structure World (ν : Type) where
  session : Session
  network : ν
  contacts : List Contact := []

structure Job where
  call : Option CallId
  pauseUntil : Nat := 0
  signer : Option Signer := none
  dues : List ((Nat × Nat) × Nat) := []
  asked : Nat := 0
  signDue : Option Nat := none
  gathered : Option (List Bytes) := none
  isOver : Bool := false

namespace Job

variable {ν : Type}

-- an event of the call, if it fits
def take? (now : Moment) (id : CallId) (event : Event) (job : Job) (w : World ν) :
    Option (Job × World ν) :=
  (w.session.step? now id event).map fun session => (job, { w with session := session })

def note (contact : Contact) (w : World ν) : World ν :=
  { w with contacts := contact :: w.contacts }

-- the next step of the request `i`
def stepRequest? (n : Network ν) (now : Moment) (id : CallId) (job : Job) (w : World ν) (i : Nat) :
    OpenRequest → Option (Job × World ν)
  | ⟨_, .waiting⟩ => take? now id (.request i .start) job w
  | ⟨_, .refused _ _ _⟩ => take? now id (.request i .move) job w
  | ⟨_, .answered _⟩ => none
  | ⟨q, .asking _ provider⟩ =>
    match job.dues.lookup (i, provider) with
    | none =>
      let due := now.elapsed + n.delay w.network provider
      some ({ job with dues := ((i, provider), due) :: job.dues }, note (.query provider q) w)
    | some due =>
      if due ≤ now.elapsed then
        let (r, network) := n.answer provider q w.network
        take? now id (.request i (.reply (Provider.answering q r))) job
          { w with network := network }
      else none

-- the first of the requests that gets further
def stepRequests? (n : Network ν) (now : Moment) (id : CallId) (job : Job) (w : World ν) :
    (i : Nat) → List OpenRequest → Option (Job × World ν)
  | _, [] => none
  | i, r :: rest =>
    (stepRequest? n now id job w i r).or (stepRequests? n now id job w (i + 1) rest)

-- asks for a signature, and uses it when it is there
def stepSign? (now : Moment) (signer : Signer) (hash : Bytes) (job : Job) (w : World ν)
    (use : Except SignerError Bytes → Job → Option (Job × World ν)) : Option (Job × World ν) :=
  match job.signDue with
  | none => some ({ job with signDue := some (now.elapsed + signer.delay) }, note (.sign hash) w)
  | some due =>
    if due ≤ now.elapsed then
      use (signer.sign job.asked hash) { job with signDue := none, asked := job.asked + 1 }
    else none

-- asks for all signatures, one after the other, and hands them back together
def stepSignAll? (now : Moment) (id : CallId) (signer : Signer) (hashes : List Bytes) (job : Job)
    (w : World ν) : Option (Job × World ν) :=
  match job.gathered with
  | none => some ({ job with gathered := some [] }, note (.signAll hashes.length) w)
  | some signatures =>
    match hashes[signatures.length]? with
    | none => take? now id (.signedAll (.ok (signer.gather signatures))) job w
    | some hash =>
      stepSign? now signer hash job w fun r job =>
        match r with
        | .ok signature => some ({ job with gathered := some (signatures ++ [signature]) }, w)
        | .error cause => take? now id (.signedAll (.error cause)) job w

def stepWait? (n : Network ν) (now : Moment) (id : CallId) (job : Job) (w : World ν) :
    Wait → Option (Job × World ν)
  | .nothing => none
  | .requests members => stepRequests? n now id job w 0 members
  | .signature hash =>
    job.signer.bind fun signer =>
      stepSign? now signer hash job w fun r job => take? now id (.signed r) job w
  | .signatures hashes =>
    job.signer.bind fun signer => stepSignAll? now id signer hashes job w
  | .tokens address =>
    take? now id (.listed (n.tokens w.network)) job (note (.listTokens address) w)

def stepCall? (n : Network ν) (now : Moment) (id : CallId) (job : Job) (w : World ν) :
    Option (Job × World ν) :=
  (take? now id .cancel job w).or <|
    (take? now id .proceed job w).or <|
      (w.session.calls[id]?).bind fun call => stepWait? n now id job w call.wait

def result? (job : Job) (w : World ν) : Option (Outcome ManagerError Call.Result) :=
  job.call.bind fun id => (w.session.calls[id]?).bind Call.result?

def stepLimit : Nat := 100000

def advance (n : Network ν) (date : Timestamp) (now : Nat) (job : Job) (w : World ν) :
    Job × World ν :=
  match job.call with
  | none => ({ job with isOver := decide (job.pauseUntil ≤ now) }, w)
  | some id =>
    let (job, w) :=
      iterate (fun (job, w) => stepCall? n ⟨now, date⟩ id job w) stepLimit (job, w)
    ({ job with isOver := (job.result? w).isSome }, w)

def behavior (n : Network ν) (date : Timestamp) : Behavior (World ν) Job where
  advance := advance n date
  times := fun job => job.pauseUntil :: job.signDue.toList ++ job.dues.map (·.2)
  isOver := fun job => job.isOver

end Job

end CoinWallet.Simulation
