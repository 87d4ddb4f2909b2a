import CoinWallet.Provider.Fetch
import CoinWallet.Wallet

set_option autoImplicit false

namespace CoinWallet

structure AccountUpdate where
  balance : Decimal
  tokens : List (Token × Decimal)
  transactionCount : UInt64
  pendingCount : UInt64
deriving DecidableEq

namespace Account

def tokenQuery (address : String) (t : Token) : Query :=
  .tokenBalance address t

def tokenValue? (t : Token) (raw : Option Nat) : Option (Token × Decimal) := do
  let raw ← raw
  let value ← Decimal.ofBaseUnits? raw t.decimals
  return (t, value)

def update (chain : Blockchain) (balance : Nat) (transactionCount pendingCount : UInt64)
    (tokens : List (Token × Decimal)) : Except NetworkError AccountUpdate :=
  match Decimal.ofBaseUnits? balance chain.decimals with
  | some value =>
    .ok
      { balance := value, tokens := tokens, transactionCount := transactionCount
        pendingCount := pendingCount }
  | none => .error (.outOfRange s!"balance out of range: {balance}")

def refreshPlan (chain : Blockchain) (w : Wallet) : Plan AccountUpdate :=
  let address := w.primaryAddress
  { queries :=
      .balance address :: .transactionCount address :: .pendingCount address ::
        w.tokens.map (tokenQuery address)
    apart := 3
    conclude := fun
      | .cons balance (.cons count (.cons pending tokens)) =>
        .ofExcept .network <|
          update chain balance count pending
            ((tokens.toList (tokenQuery address) tokenValue? w.tokens).filterMap id) }

/-- Takes over an update. Tokens that are no longer tracked stay away; equal counts say that nothing
is pending. -/
def commit (w : Wallet) (update : AccountUpdate) (now : Timestamp) : Wallet :=
  let w := update.tokens.foldl (fun w (t, value) => if w.tracks t then w.setToken t value else w)
    (w.setCoin update.balance)
  let w := { w with nonce := some update.transactionCount }
  if update.transactionCount = update.pendingCount then w.confirmAll else w.addPlaceholder now

def signatureCountPlan (w : Wallet) : Plan UInt64 where
  queries := [.transactionCount w.primaryAddress]
  conclude
    | .cons count .nil => .ok count

def discovered (found : List (Token × Nat)) : List (Token × Decimal) :=
  found.filterMap fun (t, raw) => tokenValue? t (some raw)

def adopt (w : Wallet) (tokens : List (Token × Decimal)) : Wallet :=
  tokens.foldl (fun w (t, value) => w.setToken t value) w

end Account

end CoinWallet
