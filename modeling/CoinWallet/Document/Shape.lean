set_option autoImplicit false

namespace CoinWallet

inductive Shape
  | whole
  | list (item : Shape)
  | record (fields : List (String × Shape))

end CoinWallet
