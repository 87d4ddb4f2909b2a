import CoinWallet.Decimal.Rounding

set_option autoImplicit false

namespace CoinWallet

-- powers are those of the core library
attribute [local instance (high)] instPowNat

structure Binary64 where
  negative : Bool
  m : Nat
  q : Int
deriving DecidableEq, Repr

namespace Binary64

-- the size as a quotient of naturals
def numerator (m : Nat) (q : Int) : Nat := m * 2 ^ q.toNat

def denominator (q : Int) : Nat := 2 ^ (-q).toNat

def nearestSize? (num den : Nat) : Option (Nat × Int) :=
  if num = 0 then some (0, 0)
  else
    let guess : Int := (num.log2 : Int) - (den.log2 : Int) - 53
    let scaled (q : Int) : Nat × Nat := (num * denominator q, den * 2 ^ q.toNat)
    let low := max guess (-1074)
    let (n, d) := scaled low
    let q := if 2 ^ (53 : Nat) ≤ n / d then low + 1 else low
    let (n, d) := scaled q
    let m := Rounding.halfEven.quotient n d
    if numerator m q < 2 ^ (1024 : Nat) * denominator q then some (m, q) else none

def ofNat? (n : Nat) : Option (Nat × Int) := nearestSize? n 1

def mul? (a b : Nat × Int) : Option (Nat × Int) :=
  nearestSize? (numerator a.1 a.2 * numerator b.1 b.2) (denominator a.2 * denominator b.2)

def div? (a b : Nat × Int) : Option (Nat × Int) :=
  nearestSize? (numerator a.1 a.2 * denominator b.2) (denominator a.2 * numerator b.1 b.2)

/-- Whether the decimal `c * 10 ^ e` rounds to the size `m * 2 ^ q`: it lies between the halfway
points to the neighbours, and may be one of them when `m` is even. -/
def readsBack (m : Nat) (q : Int) (c : Nat) (e : Int) : Bool :=
  let narrow := m == 2 ^ (52 : Nat) && -1074 < q
  let low := if narrow then 4 * m - 1 else 4 * m - 2
  let high := 4 * m + 2
  let unitNum := 2 ^ (q - 2).toNat * 10 ^ (-e).toNat
  let unitDen := 2 ^ (2 - q).toNat * 10 ^ e.toNat
  let value := c * unitDen
  if m % 2 = 0 then low * unitNum ≤ value && value ≤ high * unitNum
  else low * unitNum < value && value < high * unitNum

-- the least `k` with `num / den < 10 ^ k`
def magnitude (num den : Nat) : Int :=
  if den ≤ num then ((Nat.toDigits 10 (num / den)).length : Int)
  else
    let d := (Nat.toDigits 10 (den / num)).length
    if den = num * 10 ^ (d - 1) then 2 - (d : Int) else 1 - (d : Int)

-- the grids of `count` digits and more, up to seventeen
def shortestFrom (m : Nat) (q k : Int) : (fuel count : Nat) → Nat × Int
  | 0, _ => (numerator m q * 5 ^ (-q).toNat, -((-q).toNat : Int))
  | fuel + 1, count =>
    let e := k - count
    let num := numerator m q * 10 ^ (-e).toNat
    let den := denominator q * 10 ^ e.toNat
    let c := num / den
    match readsBack m q c e, readsBack m q (c + 1) e with
    | true, true => if 2 * num < (2 * c + 1) * den then (c, e) else (c + 1, e)
    | true, false => (c, e)
    | false, true => (c + 1, e)
    | false, false => shortestFrom m q k fuel (count + 1)

/-- The decimal `c * 10 ^ e` with the fewest digits that reads back, the nearest of those, and of
two that are as near the larger. -/
def shortest (m : Nat) (q : Int) : Nat × Int :=
  if m = 0 then (0, 0)
  else shortestFrom m q (magnitude (numerator m q) (denominator q)) 17 1

def toText (x : Binary64) : String :=
  let (c, e) := shortest x.m x.q
  let digits := Nat.toDigits 10 c
  let text :=
    if 0 ≤ e then if c = 0 then ['0'] else digits ++ List.replicate e.toNat '0'
    else
      let places := (-e).toNat
      let padded := List.replicate (places + 1 - digits.length) '0' ++ digits
      let whole := padded.take (padded.length - places)
      let fraction := (padded.drop (padded.length - places)).reverse.dropWhile (· == '0') |>.reverse
      whole ++ (if fraction.isEmpty then [] else '.' :: fraction)
  String.ofList ((if x.negative then ['-'] else []) ++ text)

end Binary64

end CoinWallet
