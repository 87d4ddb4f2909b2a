set_option autoImplicit false

namespace CoinWallet

inductive Fault (ε : Type)
  | failure (cause : ε)
  | overflow
deriving DecidableEq, Repr

abbrev Outcome (ε α : Type) := Except (Fault ε) α

namespace Fault

def map {ε δ : Type} (f : ε → δ) : Fault ε → Fault δ
  | failure cause => failure (f cause)
  | overflow => overflow

end Fault

namespace Outcome

variable {ε δ α : Type}

def fail (cause : ε) : Outcome ε α :=
  .error (.failure cause)

def ofOption : Option α → Outcome ε α
  | some a => .ok a
  | none => .error .overflow

def ofExcept (f : ε → δ) : Except ε α → Outcome δ α
  | .ok a => .ok a
  | .error cause => fail (f cause)

theorem ofOption_eq_ok_iff {o : Option α} {a : α} :
    (ofOption o : Outcome ε α) = .ok a ↔ o = some a := by
  cases o <;> simp [ofOption]

theorem ofExcept_eq_ok_iff {f : ε → δ} {r : Except ε α} {a : α} :
    ofExcept f r = .ok a ↔ r = .ok a := by
  cases r <;> simp [ofExcept, fail]

-- also of computations that cannot overflow
theorem bind_eq_ok_iff {β : Type} {r : Except ε α} {next : α → Except ε β} {b : β} :
    (r >>= next) = .ok b ↔ ∃ a, r = .ok a ∧ next a = .ok b := by
  cases r <;> simp [bind, Except.bind]

theorem bind_eq_error_iff {β : Type} {r : Except ε α} {next : α → Except ε β} {e : ε} :
    (r >>= next) = .error e ↔ r = .error e ∨ ∃ a, r = .ok a ∧ next a = .error e := by
  cases r <;> simp [bind, Except.bind]

theorem fail_ne_overflow (cause : ε) : (fail cause : Outcome ε α) ≠ .error .overflow := by
  simp [fail]

theorem ofExcept_ne_overflow (f : ε → δ) (r : Except ε α) : ofExcept f r ≠ .error .overflow := by
  cases r <;> simp [ofExcept, fail]

theorem ofOption_eq_overflow_iff {o : Option α} :
    (ofOption o : Outcome ε α) = .error .overflow ↔ o = none := by
  cases o <;> simp [ofOption]

theorem map_eq_error_iff {β : Type} {r : Except ε α} {f : α → β} {e : ε} :
    r.map f = .error e ↔ r = .error e := by
  cases r <;> simp [Except.map]

theorem map_eq_ok_iff {β : Type} {r : Except ε α} {f : α → β} {b : β} :
    r.map f = .ok b ↔ ∃ a, r = .ok a ∧ f a = b := by
  cases r <;> simp [Except.map]

end Outcome

end CoinWallet
