import CoinWallet.Debouncer
import CoinWallet.Simulation.Clock

set_option autoImplicit false

namespace CoinWallet.Simulation

structure TimedInvocation (ε : Type) where
  number : Nat
  startAt : Nat
  duration : Nat
  outcome : Except ε Unit
  stage : Debouncer.Stage ε
  due : Option Nat := none

structure OperationMark where
  isEnd : Bool
  number : Nat
  time : Nat
deriving DecidableEq, Repr

structure DebounceLog where
  debouncer : Debouncer
  marks : List OperationMark := []

namespace TimedInvocation

variable {ε : Type}

def step? (now : Nat) :
    TimedInvocation ε × DebounceLog → Option (TimedInvocation ε × DebounceLog)
  | (c, l) =>
    let take (event : Debouncer.Event ε) (l : DebounceLog) :
        Option (TimedInvocation ε × DebounceLog) :=
      (l.debouncer.step? c.number now event c.stage).map fun (debouncer, stage) =>
        ({ c with stage := stage, due := none }, { l with debouncer := debouncer })
    let mark (isEnd : Bool) : DebounceLog := { l with marks := ⟨isEnd, c.number, now⟩ :: l.marks }
    match c.stage with
    | .running =>
      match c.due with
      | none => some ({ c with due := some (now + c.duration) }, mark false)
      | some due => if due ≤ now then take (.ended c.outcome) (mark true) else none
    | .finished _ => none
    | _ => if c.startAt ≤ now then take .proceed l else none

def result? (c : TimedInvocation ε) : Option (Except ε Invocation) :=
  match c.stage with
  | .finished r => some r
  | _ => none

def behavior : Behavior DebounceLog (TimedInvocation ε) where
  advance := fun now c l => iterate (step? now) 4 (c, l)
  times := fun c => c.startAt :: c.due.toList
  isOver := fun c => c.result?.isSome

end TimedInvocation

end CoinWallet.Simulation
