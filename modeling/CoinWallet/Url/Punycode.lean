set_option autoImplicit false

namespace CoinWallet.Url.Punycode

-- powers are those of the core library
attribute [local instance (high)] instPowNat

def digitChar (d : Nat) : Char :=
  if d < 26 then Char.ofNat (d + 97) else Char.ofNat (d - 26 + 48)

def digitValue? (c : Char) : Option Nat :=
  if 'a' ≤ c ∧ c ≤ 'z' then some (c.toNat - 97)
  else if 'A' ≤ c ∧ c ≤ 'Z' then some (c.toNat - 65)
  else if '0' ≤ c ∧ c ≤ '9' then some (c.toNat - 48 + 26)
  else none

def threshold (bias k : Nat) : Nat :=
  if k ≤ bias then 1 else if bias + 26 ≤ k then 26 else k - bias

theorem threshold_pos (bias k : Nat) : 0 < threshold bias k := by
  unfold threshold
  split
  · omega
  · split <;> omega

def shrink (delta k : Nat) : Nat :=
  if 455 < delta then shrink (delta / 35) (k + 36) else k + 36 * delta / (delta + 38)
termination_by delta

def adapt (delta points : Nat) (first : Bool) : Nat :=
  let delta := if first then delta / 700 else delta / 2
  shrink (delta + delta / points) 0

def numberChars (bias k n : Nat) : List Char :=
  let t := threshold bias k
  if n < t then [digitChar n]
  else digitChar (t + (n - t) % (36 - t)) :: numberChars bias (k + 36) ((n - t) / (36 - t))
termination_by n
decreasing_by
  have := threshold_pos bias k
  exact Nat.lt_of_le_of_lt (Nat.div_le_self _ _) (by omega)

structure Writing where
  delta : Nat
  bias : Nat
  handled : Nat
  output : List Char

-- one character of the text, while those of the code point `m` are placed
def Writing.meet (basic m : Nat) (w : Writing) (c : Char) : Writing :=
  if c.toNat < m then { w with delta := w.delta + 1 }
  else if c.toNat = m then
    { delta := 0
      bias := adapt w.delta (w.handled + 1) (w.handled == basic)
      handled := w.handled + 1
      output := w.output ++ numberChars w.bias 36 w.delta }
  else w

def Writing.place (text : List Char) (basic n : Nat) (w : Writing) : (todo : List Nat) → List Char
  | [] => w.output
  | m :: todo =>
    let w := { w with delta := w.delta + (m - n) * (w.handled + 1) }
    let w := text.foldl (meet basic m) w
    place text basic (m + 1) { w with delta := w.delta + 1 } todo

def encode (text : List Char) : List Char :=
  let basic := text.filter fun c => c.toNat < 128
  let others := (text.filter fun c => 128 ≤ c.toNat).map Char.toNat
  (if basic.isEmpty then [] else basic ++ ['-']) ++
    Writing.place text basic.length 128 ⟨0, 72, basic.length, []⟩ others.mergeSort.eraseDups

def numberLimit : Nat := 2 ^ (32 : Nat)

def readNumber? (bias : Nat) : (k weight sum : Nat) → List Char → Option (Nat × List Char)
  | _, _, _, [] => none
  | k, weight, sum, c :: rest => do
    let d ← digitValue? c
    let sum := sum + d * weight
    let t := threshold bias k
    if numberLimit ≤ sum then none
    else if d < t then some (sum, rest)
    else if numberLimit ≤ weight * (36 - t) then none
    else readNumber? bias (k + 36) (weight * (36 - t)) sum rest

theorem readNumber?_length {bias k weight sum n : Nat} {cs rest : List Char}
    (h : readNumber? bias k weight sum cs = some (n, rest)) : rest.length < cs.length := by
  induction cs generalizing k weight sum with
  | nil => simp [readNumber?] at h
  | cons c cs ih =>
    rw [readNumber?] at h
    cases hd : digitValue? c with
    | none => simp [hd] at h
    | some d =>
      simp only [hd, bind, Option.bind] at h
      split at h
      · simp at h
      · split at h
        · simp at h; simp [h.2]
        · split at h
          · simp at h
          · have := ih h; simp; omega

def insertAll (bias n position : Nat) (text numbers : List Char) : Option (List Char) :=
  if numbers.isEmpty then some text
  else
    match h : readNumber? bias 36 1 position numbers with
    | none => none
    | some (sum, rest) =>
      let points := text.length + 1
      let n := n + sum / points
      let place := sum % points
      if n.isValidChar then
        insertAll (adapt (sum - position) points (position == 0)) n (place + 1)
          (text.insertIdx place (Char.ofNat n)) rest
      else none
termination_by numbers.length
decreasing_by
  exact readNumber?_length h

def decode? (cs : List Char) : Option (List Char) :=
  let numbers := (cs.reverse.takeWhile (· != '-')).reverse
  let basic := cs.take (cs.length - numbers.length - 1)
  if basic.isEmpty then insertAll 72 128 0 [] cs else insertAll 72 128 0 basic numbers

end CoinWallet.Url.Punycode
