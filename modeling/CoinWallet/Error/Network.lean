set_option autoImplicit false

namespace CoinWallet

inductive DomainError
  | accountNotFound (address : String)
  | insufficientFunds
  | signatureCountMismatch (expected actual : UInt64)
  | rejected (reason : String)
  | unsupported (what : String)
deriving DecidableEq, Repr

def DomainError.name : DomainError → String
  | accountNotFound _ => "AccountNotFound"
  | insufficientFunds => "InsufficientFunds"
  | signatureCountMismatch _ _ => "SignatureCountMismatch"
  | rejected _ => "Rejected"
  | unsupported _ => "Unsupported"

def DomainError.message : DomainError → String
  | accountNotFound address => "DomainError - AccountNotFound: " ++ address
  | insufficientFunds => "DomainError - InsufficientFunds"
  | signatureCountMismatch expected actual =>
    s!"DomainError - SignatureCountMismatch: expected {expected.toNat}, " ++
      s!"chain reports {actual.toNat}"
  | rejected reason => "DomainError - Rejected: " ++ reason
  | unsupported what => "DomainError - Unsupported: " ++ what

inductive NetworkError
  | transport (reason : String)
  | timeout (reason : String)
  | unexpectedStatus (status : Nat) (body : String)
  | undecodable (reason : String)
  | outOfRange (reason : String)
  | rpc (code : Int) (text : String)
  | domain (cause : DomainError)
  | allProvidersFailed (attempts : Nat) (last : NetworkError)
deriving DecidableEq, Repr

namespace NetworkError

def name : NetworkError → String
  | transport _ => "Transport"
  | timeout _ => "Timeout"
  | unexpectedStatus _ _ => "UnexpectedStatus"
  | undecodable _ => "CouldNotDecodeResponseBody"
  | outOfRange _ => "ValueOutOfRange"
  | rpc _ _ => "Rpc"
  | domain cause => "Domain." ++ cause.name
  | allProvidersFailed attempts last => s!"AllProvidersFailed({attempts})." ++ last.name

def message : NetworkError → String
  | transport reason => "NetworkError - Transport: " ++ reason
  | timeout reason => "NetworkError - Timeout: " ++ reason
  | unexpectedStatus status body => s!"NetworkError - UnexpectedStatus: {status} " ++ body
  | undecodable reason => "NetworkError - CouldNotDecodeResponseBody: " ++ reason
  | outOfRange reason => "NetworkError - ValueOutOfRange: " ++ reason
  | rpc code text => s!"NetworkError - Rpc: code {code}, " ++ text
  | domain cause => "NetworkError - Domain: " ++ cause.message
  | allProvidersFailed attempts last =>
    s!"NetworkError - AllProvidersFailed after {attempts} attempt(s): " ++ last.message

/-- Only a failure of the provider itself is worth asking the next one. -/
def isRetryable : NetworkError → Bool
  | transport _ | timeout _ | undecodable _ => true
  | unexpectedStatus status _ => 500 ≤ status || status == 429
  | outOfRange _ | rpc _ _ | domain _ | allProvidersFailed _ _ => false

def domain? : NetworkError → Option DomainError
  | domain cause => some cause
  | allProvidersFailed _ last => last.domain?
  | _ => none

end NetworkError

end CoinWallet
