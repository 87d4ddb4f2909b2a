import CoinWallet.Account.CallData
import CoinWallet.Http.Dialogue
import CoinWallet.Json.Writer
import CoinWallet.Provider.Query
import CoinWallet.Text.Part

set_option autoImplicit false

namespace CoinWallet.JsonRpc

-- powers are those of the core library
attribute [local instance (high)] instPowNat

open Http
open Node (record)

def callBody (id : Nat) (method : String) (params : List Node) : String :=
  Json.write <|
    record [("id", .ofNat id), ("jsonrpc", .text "2.0"), ("method", .text method),
      ("params", .list params)]

structure CallError where
  code : Int
  text : String
deriving DecidableEq, Repr

structure Answer where
  result : Option String
  error : Option CallError
deriving DecidableEq, Repr

def CallError.read (n : Node) : Option CallError := do
  match ← n.fields? .loose ["code", "message"] with
  | [code, text] =>
    let code ← code.required Node.readInt64?
    let text ← text.required Node.readText?
    some { code := code, text := text }
  | _ => none

def Answer.read (n : Node) : Option Answer := do
  match ← n.fields? .loose ["result", "error"] with
  | [result, error] =>
    let result ← result.optional Node.readText?
    let error ← error.optional CallError.read
    some { result := result, error := error }
  | _ => none

def CallError.cause (e : CallError) : NetworkError :=
  if Text.occursIn "insufficient funds".toList (Text.lower e.text).toList then
    .domain .insufficientFunds
  else .rpc e.code e.text

def Answer.value (method : String) (a : Answer) : Except NetworkError String :=
  match a.error, a.result with
  | some error, _ => .error error.cause
  | none, some result => .ok result
  | none, none => .error (.undecodable (method ++ ": response has neither result nor error"))

def responseValue (method : String) (response : Response) : Except NetworkError String := do
  let text ← response.text
  if response.isSuccess then
    let answer ← decode Answer.read text
    answer.value method
  else .error (.unexpectedStatus response.status text)

def toWord (n : Nat) : Except NetworkError UInt64 :=
  if n < 2 ^ (64 : Nat) then .ok (UInt64.ofNat n) else .error (.outOfRange s!"{n} exceeds u64")

def call {α : Type} (host : String) (id : Nat) (method : String) (params : List Node)
    (use : String → Except NetworkError α) : Dialogue α :=
  .ask { method := .post, url := host, body := callBody id method params } fun
    | .error cause => .fail cause
    | .ok response =>
      .done (Outcome.ofExcept (fun e => e) ((responseValue method response).bind use))

def word (text : String) : Except NetworkError UInt64 :=
  (Quantity.parse text).bind toWord

def latest : Node := .text "latest"
def pending : Node := .text "pending"

def balance (host : String) (id : Nat) (address : String) : Dialogue Nat :=
  call host id "eth_getBalance" [.text address, latest] Quantity.parse

def tokenBalance (host : String) (id : Nat) (address : String) (t : Token) : Dialogue Nat :=
  let data := CallData.balanceOf address
  call host id "eth_call" [record [("data", .text data), ("to", .text t.contract)], latest]
    Quantity.parse

def transactionCount (host : String) (id : Nat) (address : String) : Dialogue UInt64 :=
  call host id "eth_getTransactionCount" [.text address, latest] word

def pendingCount (host : String) (id : Nat) (address : String) : Dialogue UInt64 :=
  call host id "eth_getTransactionCount" [.text address, pending] word

def gasPrice (host : String) (id : Nat) : Dialogue Nat :=
  call host id "eth_gasPrice" [] Quantity.parse

def gasRequestNode (r : GasRequest) : Node :=
  record <|
    (match r.data with
      | some data => [("data", .text data)]
      | none => []) ++
    [("from", .text r.source), ("to", .text r.target), ("value", .text (Quantity.encode r.value))]

def gasLimit (host : String) (id : Nat) (request : GasRequest) : Dialogue UInt64 :=
  call host id "eth_estimateGas" [gasRequestNode request] word

def broadcast (host : String) (id : Nat) (hex : String) : Dialogue String :=
  call host id "eth_sendRawTransaction" [.text hex] .ok

def dialogue? (host : String) (id : Nat) : (q : Query) → Option (Dialogue q.Reply)
  | .balance address => some (balance host id address)
  | .tokenBalance address t => some ((tokenBalance host id address t).map some)
  | .transactionCount address => some (transactionCount host id address)
  | .pendingCount address => some (pendingCount host id address)
  | .gasPrice => some (gasPrice host id)
  | .gasLimit request => some (gasLimit host id request)
  | .broadcast hex => some (broadcast host id hex)
  | _ => none

end CoinWallet.JsonRpc
