import CoinWallet.Account.Pricing
import CoinWallet.Account.Refresh
import CoinWallet.Config.Endpoint
import CoinWallet.Utxo.Pricing
import CoinWallet.Utxo.Refresh

set_option autoImplicit false

namespace CoinWallet

structure UtxoChain where
  blockchain : Blockchain
  params : UtxoParams
  hosts : List String
  usesOutputs : blockchain.usesOutputs = true
  hosts_ne_nil : hosts ≠ []

structure AccountChain where
  blockchain : Blockchain
  gas : GasPolicy
  hosts : List String
  hasIndexer : Bool := false
  usesAccounts : blockchain.usesOutputs = false
  hosts_ne_nil : hosts ≠ []

inductive Chain
  | utxo (c : UtxoChain)
  | account (c : AccountChain)

def UtxoChain.new (chain : Blockchain) (params : UtxoParams) (hosts : List String) :
    Except ConfigError UtxoChain :=
  if model : chain.usesOutputs = true then
    if hosts_ne_nil : hosts ≠ [] then .ok ⟨chain, params, hosts, model, hosts_ne_nil⟩
    else .error .noProviders
  else .error (.unsupportedProvider chain "bitcoin")

def AccountChain.new (chain : Blockchain) (gas : GasPolicy) (hosts : List String) :
    Except ConfigError AccountChain :=
  if model : chain.usesOutputs = false then
    if hosts_ne_nil : hosts ≠ [] then .ok ⟨chain, gas, hosts, false, model, hosts_ne_nil⟩
    else .error .noProviders
  else .error (.unsupportedProvider chain "ethereum")

namespace ProviderConfig

def esploraHost (client : ClientConfig) (chain : Blockchain) (p : ProviderConfig) :
    Except ConfigError String :=
  match p with
  | esplora _ => do
    let url ← p.endpoint chain
    client.check
    return String.ofList (Text.dropEnd (· == '/') url.toText.toList)
  | _ => .error (.unsupportedProvider chain p.kind)

def nodeHost (client : ClientConfig) (chain : Blockchain) (p : ProviderConfig) :
    Except ConfigError String :=
  match p with
  | jsonRpc _ | infura _ _ => do
    let url ← p.endpoint chain
    client.check
    return url.toText
  | esplora _ => .error (.unsupportedProvider chain p.kind)

end ProviderConfig

-- the chain of an entry of the settings; the first provider that fails decides, then the limits,
-- then the chain itself
def UtxoChain.ofConfig (config : ChainConfig) (client : ClientConfig) :
    Except ConfigError UtxoChain := do
  let hosts ← config.providers.mapM (ProviderConfig.esploraHost client config.blockchain)
  let params ← UtxoParams.ofConfig config
  UtxoChain.new config.blockchain params hosts

def AccountChain.ofConfig (config : ChainConfig) (client : ClientConfig) :
    Except ConfigError AccountChain := do
  let hosts ← config.providers.mapM (ProviderConfig.nodeHost client config.blockchain)
  AccountChain.new config.blockchain config.gas hosts

inductive Update
  | utxo (info : AddressInfo)
  | account (update : AccountUpdate)

def Update.commit (w : Wallet) (update : Update) (now : Timestamp) : Wallet :=
  match update with
  | utxo info => Utxo.commit w info now
  | account update => Account.commit w update now

namespace Chain

def blockchain : Chain → Blockchain
  | utxo c => c.blockchain
  | account c => c.blockchain

def hosts : Chain → List String
  | utxo c => c.hosts
  | account c => c.hosts

def providers (chain : Chain) : Nat :=
  chain.hosts.length

theorem providers_pos (chain : Chain) : 0 < chain.providers := by
  cases chain with
  | utxo c => exact List.length_pos_iff.2 c.hosts_ne_nil
  | account c => exact List.length_pos_iff.2 c.hosts_ne_nil

theorem currentProvider_lt (chain : Chain) (cursor : Nat) :
    currentProvider chain.providers cursor < chain.hosts.length := by
  have := chain.providers_pos
  simp only [currentProvider, providers] at *
  omega

def currentHost (chain : Chain) (cursor : Nat) : String :=
  chain.hosts.get ⟨currentProvider chain.providers cursor, chain.currentProvider_lt cursor⟩

def dustValue : Chain → Option Decimal
  | utxo c => c.params.dustValue
  | account _ => none

def supports (chain : Chain) : Capability → Bool
  | .transactionSender | .signatureCountValidator => true
  | .tokenFinder =>
    match chain with
    | account c => c.hasIndexer
    | utxo _ => false

def refreshPlan (chain : Chain) (w : Wallet) : Plan Update :=
  match chain with
  | utxo _ => (Utxo.refreshPlan w).map .utxo
  | account c => (Account.refreshPlan c.blockchain w).map .account

def feePlan (chain : Chain) (builder : Builder) (w : Wallet) (amount : Amount)
    (destination : String) (now : Timestamp) : Except ManagerError (Plan FeeOffer) :=
  match chain with
  | utxo c => .ok (Utxo.feePlan c.blockchain c.params builder w amount destination now)
  | account c => Account.feePlan c.blockchain c.gas w amount destination

def signatureCountPlan (chain : Chain) (w : Wallet) : Plan UInt64 :=
  match chain with
  | utxo _ => Utxo.signatureCountPlan w
  | account _ => Account.signatureCountPlan w

def broadcastText (chain : Chain) (signed : Bytes) : String :=
  match chain with
  | utxo _ => Hex.encode signed
  | account _ => "0x" ++ Hex.encode signed

def broadcastPlan (chain : Chain) (signed : Bytes) : Plan String where
  queries := [.broadcast (chain.broadcastText signed)]
  conclude
    | .cons hash .nil => .ok hash

end Chain

end CoinWallet
