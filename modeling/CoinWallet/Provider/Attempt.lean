import CoinWallet.Error.Fault
import CoinWallet.Error.Network

set_option autoImplicit false

/-!
A request to a list of interchangeable providers. It starts at the provider the cursor points to and
moves forward while providers fail. It never starts over: past the last provider it fails, and the
cursor goes back to the first. The cursor is shared by all requests, and one that finds it elsewhere
than at the provider it gives up leaves it alone.
-/

namespace CoinWallet

/-- Where a request stands. `first` is the provider it started at. -/
inductive Attempt (α : Type)
  | waiting
  | asking (first index : Nat)
  | refused (first index : Nat) (cause : NetworkError)
  | answered (r : Outcome NetworkError α)

inductive Attempt.Event (α : Type)
  | start
  | reply (r : Outcome NetworkError α)
  | move

namespace Attempt

variable {α : Type}

def retryCause? : Outcome NetworkError α → Option NetworkError
  | .error (.failure cause) => if cause.isRetryable then some cause else none
  | _ => none

def receive (first index : Nat) (r : Outcome NetworkError α) : Attempt α :=
  match retryCause? r with
  | some cause => .refused first index cause
  | none => .answered r

def exchange (cursor old new : Nat) : Nat :=
  if cursor = old then new else cursor

def giveUp (providers cursor first index : Nat) (cause : NetworkError) : Attempt α × Nat :=
  if index + 1 < providers then
    (.asking first (index + 1), exchange cursor index (index + 1))
  else
    (.answered (.fail (.allProvidersFailed (index + 1 - first) cause)), exchange cursor index 0)

def step? (providers cursor : Nat) : Event α → Attempt α → Option (Attempt α × Nat)
  | .start, waiting =>
    let index := min cursor (providers - 1)
    some (asking index index, cursor)
  | .reply r, asking first index => some (receive first index r, cursor)
  | .move, refused first index cause => some (giveUp providers cursor first index cause)
  | _, _ => none

def finish (providers : Nat) (answer : Nat → Outcome NetworkError α) (cursor first index : Nat) :
    Outcome NetworkError α × Nat × List Nat :=
  match retryCause? (answer index) with
  | none => (answer index, cursor, [index])
  | some cause =>
    if index + 1 < providers then
      let (r, cursor, asked) :=
        finish providers answer (exchange cursor index (index + 1)) first (index + 1)
      (r, cursor, index :: asked)
    else
      (.fail (.allProvidersFailed (index + 1 - first) cause), exchange cursor index 0, [index])
termination_by providers - index

def perform (providers : Nat) (answer : Nat → Outcome NetworkError α) (cursor : Nat) :
    Outcome NetworkError α × Nat × List Nat :=
  let index := min cursor (providers - 1)
  finish providers answer cursor index index

def result? : Attempt α → Option (Outcome NetworkError α)
  | answered r => some r
  | _ => none

def hasBegun : Attempt α → Bool
  | waiting => false
  | _ => true

def overflows : Attempt α → Bool
  | answered (.error .overflow) => true
  | _ => false

end Attempt

def currentProvider (providers cursor : Nat) : Nat :=
  min cursor (providers - 1)

end CoinWallet
