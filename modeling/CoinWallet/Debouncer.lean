import CoinWallet.Line

set_option autoImplicit false

/-!
Refreshes in quick succession are one refresh. Callers stand in line; each looks, when its turn
comes, whether an operation has succeeded within the window, and if so skips its own. Only a success
starts the window anew, so what failed may be tried again at once.
-/

namespace CoinWallet

inductive Invocation
  | executed
  | skipped
deriving DecidableEq, Repr

-- moments are milliseconds from one start
structure Debouncer where
  window : Nat
  lastCompleted : Option Nat := none
  line : Line := {}
deriving DecidableEq, Repr

namespace Debouncer

def skips (d : Debouncer) (forced : Bool) (now : Nat) : Bool :=
  match d.lastCompleted with
  | some completed => !forced && decide (now - completed < d.window)
  | none => false

def join (d : Debouncer) (id : CallId) : Debouncer :=
  { d with line := d.line.join id }

def leave (d : Debouncer) (id : CallId) : Debouncer :=
  { d with line := d.line.leave id }

def complete (d : Debouncer) (id : CallId) (succeeded : Bool) (now : Nat) : Debouncer :=
  { d.leave id with lastCompleted := if succeeded then some now else d.lastCompleted }

inductive Stage (ε : Type)
  | called (forced : Bool)
  | waiting (forced : Bool)
  | running
  | finished (r : Except ε Invocation)

inductive Event (ε : Type)
  | proceed
  | ended (r : Except ε Unit)

def step? {ε : Type} (d : Debouncer) (id : CallId) (now : Nat) :
    Event ε → Stage ε → Option (Debouncer × Stage ε)
  | .proceed, .called forced => some (d.join id, .waiting forced)
  | .proceed, .waiting forced =>
    if d.line.isHeldBy id then
      if d.skips forced now then some (d.leave id, .finished (.ok .skipped))
      else some (d, .running)
    else none
  | .ended r, .running =>
    some (d.complete id r.isOk now, .finished (r.map fun _ => .executed))
  | _, _ => none

end Debouncer

end CoinWallet
