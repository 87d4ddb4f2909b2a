set_option autoImplicit false

namespace CoinWallet.Text

def dropEnd (p : Char → Bool) (cs : List Char) : List Char :=
  (cs.reverse.dropWhile p).reverse

def occursIn (part : List Char) : List Char → Bool
  | [] => part.isEmpty
  | c :: rest => part.isPrefixOf (c :: rest) || occursIn part rest

def splitAt (isSeparator : Char → Bool) : List Char → List (List Char)
  | [] => [[]]
  | c :: rest =>
    if isSeparator c then [] :: splitAt isSeparator rest
    else
      match splitAt isSeparator rest with
      | [] => [[c]]
      | piece :: pieces => (c :: piece) :: pieces

end CoinWallet.Text
