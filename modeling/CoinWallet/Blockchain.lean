set_option autoImplicit false

namespace CoinWallet

inductive Blockchain
  | bitcoin
  | bitcoinTestnet
  | litecoin
  | dogecoin
  | ethereum
  | ethereumTestnet
deriving DecidableEq, Repr, Inhabited

namespace Blockchain

def all : List Blockchain :=
  [bitcoin, bitcoinTestnet, litecoin, dogecoin, ethereum, ethereumTestnet]

def name : Blockchain → String
  | bitcoin => "bitcoin"
  | bitcoinTestnet => "bitcoin_testnet"
  | litecoin => "litecoin"
  | dogecoin => "dogecoin"
  | ethereum => "ethereum"
  | ethereumTestnet => "ethereum_testnet"

def ofName? (name : String) : Option Blockchain :=
  all.find? fun chain => chain.name == name

@[simp] theorem ofName_name (chain : Blockchain) : ofName? chain.name = some chain := by
  cases chain <;> decide

def decimals : Blockchain → UInt32
  | bitcoin | bitcoinTestnet | litecoin | dogecoin => 8
  | ethereum | ethereumTestnet => 18

theorem decimals_le (chain : Blockchain) : chain.decimals.toNat ≤ 28 := by
  cases chain <;> decide

def symbol : Blockchain → String
  | bitcoin | bitcoinTestnet => "BTC"
  | litecoin => "LTC"
  | dogecoin => "DOGE"
  | ethereum | ethereumTestnet => "ETH"

def isTestnet : Blockchain → Bool
  | bitcoinTestnet | ethereumTestnet => true
  | _ => false

-- a coin balance on such a chain is the sum of discrete unspent outputs; on the others it is kept
-- by an account
def usesOutputs : Blockchain → Bool
  | bitcoin | bitcoinTestnet | litecoin | dogecoin => true
  | ethereum | ethereumTestnet => false

end Blockchain

end CoinWallet
