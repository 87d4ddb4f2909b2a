import CoinWallet.Document.Fields
import CoinWallet.Error.Fault
import CoinWallet.Error.Network
import CoinWallet.Json.Reader

set_option autoImplicit false

/-!
Dialogues with a server: requests, each of which may depend on the answers before it, and a result.
Who carries a dialogue out decides how requests travel.
-/

namespace CoinWallet.Http

inductive Method
  | get
  | post
deriving DecidableEq, Repr

structure Request where
  method : Method
  url : String
  body : String := ""
deriving DecidableEq, Repr

structure Response where
  status : Nat
  body : Except NetworkError String

inductive Dialogue (α : Type)
  | done (r : Outcome NetworkError α)
  | ask (request : Request) (next : Except NetworkError Response → Dialogue α)

namespace Response

def isSuccess (r : Response) : Bool :=
  200 ≤ r.status && r.status < 300

def dropMark (text : String) : String :=
  match text.toList with
  | c :: rest => if c.toNat = 0xfeff then String.ofList rest else text
  | [] => text

def text (r : Response) : Except NetworkError String :=
  r.body.map dropMark

end Response

def isTransient : Except NetworkError Response → Bool
  | .error _ => true
  | .ok r => (500 ≤ r.status && r.status < 600) || r.status == 408 || r.status == 429

namespace Dialogue

variable {α β : Type}

def fail (cause : NetworkError) : Dialogue α :=
  done (.fail cause)

def map (f : α → β) : Dialogue α → Dialogue β
  | done r => done (r.map f)
  | ask request next => ask request fun answer => map f (next answer)

-- the request again, as long as answers are transient and repetitions are left
def again (request : Request) (next : Except NetworkError Response → Dialogue α) :
    (repetitions : Nat) → Dialogue α
  | 0 => ask request next
  | n + 1 =>
    ask request fun answer => if isTransient answer then again request next n else next answer

def retrying (repetitions : Nat) : Dialogue α → Dialogue α
  | done r => done r
  | ask request next => again request (fun answer => retrying repetitions (next answer)) repetitions

def run {m : Type → Type} [Monad m] (send : Request → m (Except NetworkError Response)) :
    Dialogue α → m (Outcome NetworkError α)
  | done r => pure r
  | ask request next => do
    let answer ← send request
    run send (next answer)

end Dialogue

def malformed : NetworkError := .undecodable "malformed document"

def decode {α : Type} (read : Node → Option α) (text : String) : Except NetworkError α :=
  match (Json.read text).bind read with
  | some a => .ok a
  | none => .error malformed

end CoinWallet.Http
