set_option autoImplicit false

namespace CoinWallet

/-- Seconds since the start of 1970, UTC, and nanoseconds. A leap second has a billion nanoseconds
and more. -/
structure Timestamp where
  seconds : Int
  nanos : Nat := 0
deriving DecidableEq, Repr, Inhabited

namespace Timestamp

instance : LE Timestamp :=
  ⟨fun a b => a.seconds < b.seconds ∨ (a.seconds = b.seconds ∧ a.nanos ≤ b.nanos)⟩

instance (a b : Timestamp) : Decidable (a ≤ b) :=
  inferInstanceAs (Decidable (a.seconds < b.seconds ∨ (a.seconds = b.seconds ∧ a.nanos ≤ b.nanos)))

def earlier (a b : Timestamp) : Timestamp :=
  if a ≤ b then a else b

def earliest : Option Timestamp → Option Timestamp → Option Timestamp
  | some a, some b => some (a.earlier b)
  | some a, none => some a
  | none, b => b

def ofSeconds? (seconds : Int) : Option Timestamp :=
  if -8334601228800 ≤ seconds ∧ seconds ≤ 8210266876799 then some { seconds := seconds } else none

end Timestamp

end CoinWallet
