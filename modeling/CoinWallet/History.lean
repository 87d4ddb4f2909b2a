import CoinWallet.Transaction

set_option autoImplicit false

namespace CoinWallet

abbrev History := List Transaction

namespace History

def knows (h : History) (hash : String) : Bool :=
  h.any fun tx => tx.hasHash hash

-- an entry without a hash is known to no history
def knowsHashOf (h : History) (tx : Transaction) : Bool :=
  match tx.hash with
  | some hash => h.knows hash
  | none => false

def insert (h : History) (tx : Transaction) : History :=
  if h.knowsHashOf tx then h else h ++ [tx]

def recordOutgoing (h : History) (tx : Transaction) : History :=
  h.insert { tx with status := .unconfirmed, hash := tx.hash.map Text.lower }

def hasUnconfirmed (h : History) : Bool :=
  h.any fun tx => !tx.isConfirmed

def placeholder (coin : Amount) (now : Timestamp) : Transaction where
  amount := coin.withValue .zero
  fee := none
  source := unknownAddress
  destination := unknownAddress
  contract := none
  status := .unconfirmed
  hash := none
  date := now

def addPlaceholder (h : History) (coin : Amount) (now : Timestamp) : History :=
  if h.hasUnconfirmed then h else h ++ [placeholder coin now]

def confirmAll (h : History) : History :=
  h.map Transaction.confirm

-- entries with a hash that `confirmed` holds become confirmed
def confirmReported (h : History) (confirmed : List Transaction) : History :=
  h.map fun tx =>
    match tx.hash with
    | some hash => if knows confirmed hash then tx.confirm else tx
    | none => tx

/-- Brings the history into line with reported transactions: known entries are confirmed where a
report says so, and unconfirmed reports that are not known are added in their order. -/
def reconcile (h : History) (reported : List Transaction) : History :=
  (reported.filter fun tx => !tx.isConfirmed).foldl insert
    (h.confirmReported (reported.filter fun tx => tx.isConfirmed))

def unconfirmedHashes (h : History) : List String :=
  (h.filter fun tx => !tx.isConfirmed).filterMap fun tx => tx.hash

end History

end CoinWallet
