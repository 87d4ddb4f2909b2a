set_option autoImplicit false

namespace CoinWallet.Simulation

structure Behavior (σ τ : Type) where
  advance : (now : Nat) → τ → σ → τ × σ
  times : τ → List Nat
  isOver : τ → Bool

namespace Behavior

variable {σ τ : Type}

def pass (b : Behavior σ τ) (now : Nat) : List τ → σ → List τ × σ
  | [], s => ([], s)
  | t :: rest, s =>
    let (t, s) := if b.isOver t then (t, s) else b.advance now t s
    let (rest, s) := pass b now rest s
    (t :: rest, s)

-- pass after pass, as long as tasks end: one that ends may let another one go on
def passes (b : Behavior σ τ) (now : Nat) : (limit : Nat) → List τ → σ → List τ × σ
  | 0, ts, s => (ts, s)
  | limit + 1, ts, s =>
    let (after, s) := b.pass now ts s
    if after.countP b.isOver = ts.countP b.isOver then (after, s) else passes b now limit after s

def settle (b : Behavior σ τ) (now : Nat) (ts : List τ) (s : σ) : List τ × σ :=
  b.passes now (ts.length + 1) ts s

def next? (b : Behavior σ τ) (now : Nat) (ts : List τ) : Option Nat :=
  ((ts.filter fun t => !b.isOver t).flatMap b.times).filter (now < ·) |>.min?

def run (b : Behavior σ τ) (stop : List τ → Bool) :
    (limit : Nat) → (now : Nat) → List τ → σ → Nat × List τ × σ
  | 0, now, ts, s => (now, ts, s)
  | limit + 1, now, ts, s =>
    let (ts, s) := b.settle now ts s
    if stop ts then (now, ts, s)
    else
      match b.next? now ts with
      | some later => run b stop limit later ts s
      | none => (now, ts, s)

def finish (b : Behavior σ τ) (limit now : Nat) (ts : List τ) (s : σ) : Nat × List τ × σ :=
  b.run (fun ts => ts.all b.isOver) limit now ts s

end Behavior

def iterate {α : Type} (step? : α → Option α) : (limit : Nat) → α → α
  | 0, a => a
  | limit + 1, a =>
    match step? a with
    | some a => iterate step? limit a
    | none => a

end CoinWallet.Simulation
