import CoinWallet.Text.Case

set_option autoImplicit false

namespace CoinWallet

structure Token where
  symbol : String
  contract : String
  decimals : UInt32
deriving DecidableEq, Repr

namespace Token

def sameContract (a b : Token) : Bool :=
  Text.sameIgnoringCase a.contract b.contract

@[simp] theorem sameContract_iff (a b : Token) :
    a.sameContract b = true ↔ Text.asciiFold a.contract = Text.asciiFold b.contract := by
  simp [sameContract]

-- by symbol, then contract, then decimals
def order (a b : Token) : Ordering :=
  (compare a.symbol b.symbol).then <|
    (compare a.contract b.contract).then (compare a.decimals b.decimals)

end Token

inductive AmountType
  | coin
  | token (t : Token)
  | reserve
deriving DecidableEq, Repr

namespace AmountType

def token? : AmountType → Option Token
  | token t => some t
  | _ => none

def sameAsset : AmountType → AmountType → Bool
  | token a, token b => a.sameContract b
  | coin, coin => true
  | reserve, reserve => true
  | _, _ => false

def rank : AmountType → Nat
  | coin => 0
  | token _ => 1
  | reserve => 2

-- coin, then tokens, then reserve
def order : AmountType → AmountType → Ordering
  | token a, token b => a.order b
  | a, b => compare a.rank b.rank

theorem sameAsset_refl (a : AmountType) : a.sameAsset a = true := by
  cases a <;> simp [sameAsset]

theorem sameAsset_comm (a b : AmountType) : a.sameAsset b = b.sameAsset a := by
  cases a <;> cases b <;> try rfl
  rw [Bool.eq_iff_iff]
  simp only [sameAsset, Token.sameContract_iff]
  exact ⟨Eq.symm, Eq.symm⟩

theorem sameAsset_trans {a b c : AmountType} (hab : a.sameAsset b = true)
    (hbc : b.sameAsset c = true) : a.sameAsset c = true := by
  cases a <;> cases b <;> cases c <;> simp_all [sameAsset]

end AmountType

end CoinWallet
