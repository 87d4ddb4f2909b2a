import CoinWallet.Blockchain
import CoinWallet.Url.Host
import CoinWallet.WalletId

set_option autoImplicit false

namespace CoinWallet

inductive ConfigError
  | noProviders
  | missingCredential (chain : Blockchain) (credential : String)
  | unsupportedProvider (chain : Blockchain) (provider : String)
  | invalidUrl (cause : Url.ParseError)
  | invalidHeader (name : String)
  | blockchainMismatch (wallet : WalletId) (walletChain chain : Blockchain)
  | notConfigured (chain : Blockchain)
deriving DecidableEq, Repr

def ConfigError.name : ConfigError → String
  | noProviders => "NoProviders"
  | missingCredential _ _ => "MissingCredential"
  | unsupportedProvider _ _ => "UnsupportedProvider"
  | invalidUrl _ => "InvalidUrl"
  | invalidHeader _ => "InvalidHeader"
  | blockchainMismatch _ _ _ => "BlockchainMismatch"
  | notConfigured _ => "NotConfigured"

def ConfigError.message : ConfigError → String
  | noProviders => "ConfigError - NoProviders: at least one provider is required"
  | missingCredential chain credential =>
    "ConfigError - MissingCredential: " ++ chain.name ++ " requires " ++ credential
  | unsupportedProvider chain provider =>
    "ConfigError - UnsupportedProvider: " ++ provider ++ " cannot serve " ++ chain.name
  | invalidUrl cause => "ConfigError - InvalidUrl: " ++ cause.message
  | invalidHeader name => "ConfigError - InvalidHeader: " ++ name
  | blockchainMismatch wallet walletChain chain =>
    "ConfigError - BlockchainMismatch: wallet " ++ wallet.toText ++ " is on " ++
      walletChain.name ++ ", chain serves " ++ chain.name
  | notConfigured chain => "ConfigError - NotConfigured: no entry for " ++ chain.name

inductive ConfigFileError
  | unreadable
  | malformed
deriving DecidableEq, Repr

def ConfigFileError.message : ConfigFileError → String
  | unreadable => "Couldn't read config file"
  | malformed => "Couldn't parse config file"

end CoinWallet
