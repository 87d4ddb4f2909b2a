import CoinWallet.Token
import CoinWallet.Utxo.AddressInfo
import CoinWallet.Error.Fault
import CoinWallet.Error.Network

set_option autoImplicit false

namespace CoinWallet

structure GasRequest where
  source : String
  target : String
  value : Nat
  data : Option String := none
deriving DecidableEq, Repr

inductive Query
  -- chains of outputs
  | addressInfo (address : String)
  | feeRates
  | signatureCount (address : String)
  -- chains of accounts
  | balance (address : String)
  | tokenBalance (address : String) (token : Token)
  | transactionCount (address : String)
  | pendingCount (address : String)
  | gasPrice
  | gasLimit (request : GasRequest)
  -- both
  | broadcast (hex : String)
deriving DecidableEq, Repr

@[reducible] def Query.Reply : Query → Type
  | addressInfo _ => AddressInfo
  | feeRates => FeeRates
  | signatureCount _ | transactionCount _ | pendingCount _ | gasLimit _ => UInt64
  | balance _ | gasPrice => Nat
  | tokenBalance _ _ => Option Nat
  | broadcast _ => String

namespace Query

def excuse? : (q : Query) → NetworkError → Option q.Reply
  | tokenBalance _ _, .outOfRange _ => some none
  | _, _ => none

def settle (q : Query) : Outcome NetworkError q.Reply → Outcome NetworkError q.Reply
  | .error (.failure cause) =>
    match q.excuse? cause with
    | some r => .ok r
    | none => .fail cause
  | r => r

end Query

abbrev Provider := (q : Query) → Outcome NetworkError q.Reply

def Provider.answering (q : Query) (r : Outcome NetworkError q.Reply) : Provider := fun other =>
  if h : q = other then h ▸ r else .fail (.domain (.unsupported "query"))

inductive Replies : List Query → Type
  | nil : Replies []
  | cons {q : Query} {qs : List Query} (r : q.Reply) (rest : Replies qs) : Replies (q :: qs)

def Replies.toList {α β : Type} (query : α → Query) (reply : (a : α) → (query a).Reply → β) :
    (as : List α) → Replies (as.map query) → List β
  | [], _ => []
  | a :: as, .cons r rest => reply a r :: toList query reply as rest

end CoinWallet
