set_option autoImplicit false

namespace CoinWallet

structure Tiers (α : Type) where
  minimum : α
  normal : α
  priority : α
deriving DecidableEq, Repr

namespace Tiers

variable {α β : Type}

def map (f : α → β) (t : Tiers α) : Tiers β :=
  ⟨f t.minimum, f t.normal, f t.priority⟩

def zip (a : Tiers α) (b : Tiers β) : Tiers (α × β) :=
  ⟨(a.minimum, b.minimum), (a.normal, b.normal), (a.priority, b.priority)⟩

-- from the minimum upwards; the first level that fails decides
def mapM? {m : Type → Type} [Monad m] (f : α → m β) (t : Tiers α) : m (Tiers β) := do
  let minimum ← f t.minimum
  let normal ← f t.normal
  let priority ← f t.priority
  return ⟨minimum, normal, priority⟩

def toList (t : Tiers α) : List α :=
  [t.minimum, t.normal, t.priority]

end Tiers

end CoinWallet
