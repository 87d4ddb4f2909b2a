import CoinWallet.Account.Quantity

set_option autoImplicit false

namespace CoinWallet.CallData

def balanceOfSelector : String := "70a08231"

def transferSelector : String := "a9059cbb"

def padWord (text : String) : String :=
  let digits := Text.lowerFrom [] (Quantity.dropMarks text.toList)
  String.ofList (List.replicate (64 - digits.length) '0' ++ digits)

def balanceOf (address : String) : String :=
  "0x" ++ balanceOfSelector ++ padWord address

def transfer (destination : String) (value : Nat) : String :=
  "0x" ++ transferSelector ++ padWord destination ++ padWord (Hex.ofNat value)

end CoinWallet.CallData
