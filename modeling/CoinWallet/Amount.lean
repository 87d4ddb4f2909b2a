import CoinWallet.Blockchain
import CoinWallet.Decimal.Text
import CoinWallet.Token

set_option autoImplicit false

namespace CoinWallet

-- powers are those of the core library
attribute [local instance (high)] instPowNat

structure Amount where
  kind : AmountType
  value : Decimal
  decimals : UInt32
  symbol : String
deriving DecidableEq

namespace Decimal

def shiftLeft? (d : Decimal) (places : Nat) : Option Decimal := do
  let factor ← ofScaled? 1 places
  d.mul? factor

def shiftRight? (d : Decimal) (places : Nat) : Option Decimal := do
  let factor ← ofScaled? (10 ^ Nat.min places 29 : Nat) 0
  d.mul? factor

def ofBaseUnits? (raw : Nat) (decimals : UInt32) : Option Decimal :=
  ofScaled? raw decimals.toNat

end Decimal

namespace Amount

def coin (chain : Blockchain) (value : Decimal) : Amount where
  kind := .coin
  value := value
  decimals := chain.decimals
  symbol := chain.symbol

def zeroCoin (chain : Blockchain) : Amount :=
  coin chain .zero

def ofToken (t : Token) (value : Decimal) : Amount where
  kind := .token t
  value := value
  decimals := t.decimals
  symbol := t.symbol

def withValue (a : Amount) (value : Decimal) : Amount :=
  { a with value := value }

def baseUnits? (a : Amount) : Option Nat := do
  let d ← a.value.shiftRight? a.decimals.toNat
  d.toNat?

def baseUnit? (a : Amount) : Option Decimal :=
  Decimal.one.shiftLeft? a.decimals.toNat

def toText (a : Amount) : String :=
  a.value.toShortText ++ " " ++ a.symbol

end Amount

end CoinWallet
