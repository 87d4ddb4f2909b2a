import CoinWallet.Error.Config
import CoinWallet.Fee.Pricing

set_option autoImplicit false

namespace CoinWallet

structure LogConfig where
  serviceName : String := "chainwallet-dev"
  json : Bool := true
deriving DecidableEq, Repr

structure ClientConfig where
  timeout : UInt64 := 10
  retries : UInt32 := 0
  headers : List (String × String) := []
deriving DecidableEq, Repr

structure ManagerConfig where
  debounceWindow : UInt64 := 10
deriving DecidableEq, Repr

inductive ProviderConfig
  | esplora (url : String)
  | jsonRpc (url : String)
  | infura (url : String) (projectId : Option String)
deriving DecidableEq, Repr

def ProviderConfig.kind : ProviderConfig → String
  | esplora _ => "esplora"
  | jsonRpc _ => "json_rpc"
  | infura _ _ => "infura"

structure ChainConfig where
  blockchain : Blockchain
  providers : List ProviderConfig := []
  dustValue : Option Decimal := none
  minimalFeePerKb : Option Decimal := none
  minimalFee : Option Decimal := none
  gas : GasPolicy := {}
deriving DecidableEq

structure Config where
  log : LogConfig := {}
  client : ClientConfig := {}
  manager : ManagerConfig := {}
  chains : List ChainConfig := []
deriving DecidableEq

def Config.chain (config : Config) (chain : Blockchain) : Except ConfigError ChainConfig :=
  match config.chains.find? fun c => c.blockchain == chain with
  | some c => .ok c
  | none => .error (.notConfigured chain)

end CoinWallet
