import CoinWallet.Error.Fault
import CoinWallet.Error.Network

set_option autoImplicit false

namespace CoinWallet

inductive BuildError
  | missingFee
  | noSpendableOutputs
  | nothingToSign
  | invalidTransaction (reason : String)
  | unsupported (what : String)
deriving DecidableEq, Repr

def BuildError.name : BuildError → String
  | missingFee => "MissingFee"
  | noSpendableOutputs => "NoSpendableOutputs"
  | nothingToSign => "NothingToSign"
  | invalidTransaction _ => "InvalidTransaction"
  | unsupported _ => "Unsupported"

def BuildError.message : BuildError → String
  | missingFee => "BuildError - MissingFee"
  | noSpendableOutputs => "BuildError - NoSpendableOutputs"
  | nothingToSign => "BuildError - NothingToSign"
  | invalidTransaction reason => "BuildError - InvalidTransaction: " ++ reason
  | unsupported what => "BuildError - Unsupported: " ++ what

inductive SignerError
  | userCancelled
  | couldNotConnect (reason : String)
  | remoteCallFailure (reason : String)
  | unexpectedSignatureCount (expected actual : Nat)
deriving DecidableEq, Repr

def SignerError.name : SignerError → String
  | userCancelled => "UserCancelled"
  | couldNotConnect _ => "CouldNotConnect"
  | remoteCallFailure _ => "RemoteCallFailure"
  | unexpectedSignatureCount _ _ => "UnexpectedSignatureCount"

def SignerError.message : SignerError → String
  | userCancelled => "SignerError - UserCancelled"
  | couldNotConnect reason => "SignerError - CouldNotConnect: " ++ reason
  | remoteCallFailure reason => "SignerError - RemoteCallFailure: " ++ reason
  | unexpectedSignatureCount expected actual =>
    s!"SignerError - UnexpectedSignatureCount: requested {expected}, received {actual}"

inductive Capability
  | transactionSender
  | signatureCountValidator
  | tokenFinder
deriving DecidableEq, Repr

namespace Capability

def all : List Capability := [transactionSender, signatureCountValidator, tokenFinder]

def name : Capability → String
  | transactionSender => "transaction_sender"
  | signatureCountValidator => "signature_count_validator"
  | tokenFinder => "token_finder"

def title : Capability → String
  | transactionSender => "TransactionSender"
  | signatureCountValidator => "SignatureCountValidator"
  | tokenFinder => "TokenFinder"

end Capability

inductive ManagerError
  | network (cause : NetworkError)
  | domain (cause : DomainError)
  | signing (cause : SignerError)
  | build (cause : BuildError)
  | capabilityNotSupported (capability : Capability)
  | cancelled
deriving DecidableEq, Repr

namespace ManagerError

def name : ManagerError → String
  | network cause => "Network." ++ cause.name
  | domain cause => "Domain." ++ cause.name
  | signing cause => "Signing." ++ cause.name
  | build cause => "Build." ++ cause.name
  | capabilityNotSupported _ => "CapabilityNotSupported"
  | cancelled => "Cancelled"

def message : ManagerError → String
  | network cause => "WalletManagerError - Network: " ++ cause.message
  | domain cause => "WalletManagerError - Domain: " ++ cause.message
  | signing cause => "WalletManagerError - Signing: " ++ cause.message
  | build cause => "WalletManagerError - Build: " ++ cause.message
  | capabilityNotSupported capability =>
    "WalletManagerError - CapabilityNotSupported: " ++ capability.title
  | cancelled => "WalletManagerError - Cancelled"

def domain? : ManagerError → Option DomainError
  | domain cause => some cause
  | network cause => cause.domain?
  | _ => none

end ManagerError

end CoinWallet
