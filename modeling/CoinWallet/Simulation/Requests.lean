import CoinWallet.Provider.Attempt
import CoinWallet.Simulation.Clock

set_option autoImplicit false

namespace CoinWallet.Simulation

structure TimedRequest (α : Type) where
  number : Nat
  startAt : Nat
  reply : (provider : Nat) → Nat × Outcome NetworkError α
  attempt : Attempt α := .waiting
  due : Option Nat := none

structure Failover where
  providers : Nat
  cursor : Nat := 0
  asked : List (Nat × Nat) := []

namespace TimedRequest

variable {α : Type}

def step? (now : Nat) : TimedRequest α × Failover → Option (TimedRequest α × Failover)
  | (r, f) =>
    let take (event : Attempt.Event α) : Option (TimedRequest α × Failover) :=
      (r.attempt.step? f.providers f.cursor event).map fun (attempt, cursor) =>
        ({ r with attempt := attempt, due := none }, { f with cursor := cursor })
    match r.attempt with
    | .waiting => if r.startAt ≤ now then take .start else none
    | .asking _ provider =>
      match r.due with
      | none =>
        some ({ r with due := some (now + (r.reply provider).1) },
          { f with asked := (r.number, provider) :: f.asked })
      | some due => if due ≤ now then take (.reply (r.reply provider).2) else none
    | .refused _ _ _ => take .move
    | .answered _ => none

def behavior : Behavior Failover (TimedRequest α) where
  advance := fun now r f => iterate (step? now) (3 * f.providers + 1) (r, f)
  times := fun r => r.startAt :: r.due.toList
  isOver := fun r => r.attempt.result?.isSome

end TimedRequest

end CoinWallet.Simulation
