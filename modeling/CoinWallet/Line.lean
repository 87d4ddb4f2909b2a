set_option autoImplicit false

namespace CoinWallet

abbrev CallId := Nat

structure Line where
  callers : List CallId := []
deriving DecidableEq, Repr

namespace Line

def holder? (l : Line) : Option CallId :=
  l.callers.head?

def join (l : Line) (id : CallId) : Line :=
  ⟨l.callers ++ [id]⟩

def leave (l : Line) (id : CallId) : Line :=
  ⟨l.callers.erase id⟩

def isHeldBy (l : Line) (id : CallId) : Bool :=
  l.holder? == some id

@[simp] theorem holder_join (l : Line) (id : CallId) :
    (l.join id).holder? = l.holder?.or (some id) := by
  cases l with
  | mk callers => cases callers <;> rfl

end Line

end CoinWallet
