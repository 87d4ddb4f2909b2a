import CoinWallet.Wallet

set_option autoImplicit false

namespace CoinWallet

inductive PaymentError
  | invalidAmountValue
  | amountExceedsBalance
  | feeExceedsBalance
  | totalExceedsBalance
  | dustAmount
  | dustChange
deriving DecidableEq, Repr

namespace PaymentError

def all : List PaymentError :=
  [invalidAmountValue, amountExceedsBalance, feeExceedsBalance, totalExceedsBalance, dustAmount,
    dustChange]

def name : PaymentError → String
  | invalidAmountValue => "invalid_amount_value"
  | amountExceedsBalance => "amount_exceeds_balance"
  | feeExceedsBalance => "fee_exceeds_balance"
  | totalExceedsBalance => "total_exceeds_balance"
  | dustAmount => "dust_amount"
  | dustChange => "dust_change"

def message : PaymentError → String
  | invalidAmountValue => "TransactionError - InvalidAmountValue"
  | amountExceedsBalance => "TransactionError - AmountExceedsBalance"
  | feeExceedsBalance => "TransactionError - FeeExceedsBalance"
  | totalExceedsBalance => "TransactionError - TotalExceedsBalance"
  | dustAmount => "TransactionError - DustAmount"
  | dustChange => "TransactionError - DustChange"

end PaymentError

structure Payment where
  amount : Amount
  fee : Option Amount := none
  dust : Option Decimal := none

namespace Payment

def feeValue (p : Payment) : Decimal :=
  match p.fee with
  | some fee => fee.value
  | none => .zero

def spendsCoin (p : Payment) : Bool :=
  p.amount.kind == .coin

def spent? (p : Payment) : Option Decimal :=
  if p.spendsCoin then p.amount.value.add? p.feeValue else some p.feeValue

-- the rules that need no arithmetic
def violatesSimple (p : Payment) (w : Wallet) : PaymentError → Bool
  | .invalidAmountValue => p.amount.value ≤ .zero
  | .amountExceedsBalance => w.funds p.amount.kind < p.amount.value
  | .feeExceedsBalance => w.coinAmount.value < p.feeValue
  | .dustAmount =>
    match p.dust with
    | some dust => !p.amount.value.isZero && decide (p.amount.value < dust)
    | none => false
  | _ => false

-- the rules on what is spent in all and what is left
def violatesTotal (p : Payment) (w : Wallet) (spent : Decimal) (change : Option Decimal) :
    PaymentError → Bool
  | .totalExceedsBalance => p.spendsCoin && decide (w.coinAmount.value < spent)
  | .dustChange =>
    match p.dust, change with
    | some dust, some change => change.isPositive && decide (change < dust)
    | _, _ => false
  | _ => false

/-- The rules a payment from `w` violates, in order; none if a sum or difference has no room. The
change is worked out only where there is a dust value to compare it with. -/
def errors? (p : Payment) (w : Wallet) : Option (List PaymentError) := do
  let spent ← p.spent?
  let change ← match p.dust with
    | some _ => (w.coinAmount.value.sub? spent).map some
    | none => some none
  return PaymentError.all.filter fun e =>
    p.violatesSimple w e || p.violatesTotal w spent change e

end Payment

end CoinWallet
