import DeviceAgent.Decimal.Binary64

/-!
# Shortest decimal text

The fewest decimal digits that read back as a given binary64 number, the nearest of them when there are
several, and their spelling: positional from `1e-5` up to below `1e+16`, with an exponent elsewhere.
-/

namespace DeviceAgent.Binary64

/-- The reals that round to a number, in quarters of its unit: both ends and whether they belong to it. -/
structure Interval where
  low : Nat
  high : Nat
  closed : Bool

/-- The interval of a number, in units of `2 ^ (exponent - 2)`. -/
def interval (x : Binary64) : Interval where
  low :=
    if x.mantissa = Nat.pow 2 52 && leastExponent < x.exponent then 4 * x.mantissa - 1
    else 4 * x.mantissa - 2
  high := 4 * x.mantissa + 2
  closed := x.mantissa % 2 == 0

/-- How many zeros follow the point before the first digit of `num / den < 1`. -/
def leadingZeros (num den : Nat) : Nat → Nat
  | 0 => 0
  | fuel + 1 => if num * 10 < den then leadingZeros (num * 10) den fuel + 1 else 0

/-- The least `k` with `num / den < 10 ^ k`. -/
def pointAfter (num den : Nat) : Int :=
  if den ≤ num then ((Nat.toDigits 10 (num / den)).length : Int) else -(leadingZeros num den 400 : Int)

/-- `n · 10 ^ k` as a quotient. -/
def decimalRatio (n : Nat) (k : Int) : Nat × Nat :=
  if 0 ≤ k then (n * Nat.pow 10 k.toNat, 1) else (n, Nat.pow 10 (-k).toNat)

/-- Whether `n · 10 ^ k` rounds to the number. -/
def readsBack (x : Binary64) (n : Nat) (k : Int) : Bool :=
  let i := x.interval
  let units := inUnits (decimalRatio n k).1 (decimalRatio n k).2 (x.exponent - 2)
  if i.closed then i.low * units.2 ≤ units.1 && units.1 ≤ i.high * units.2
  else i.low * units.2 < units.1 && units.1 < i.high * units.2

/-- Of the two neighbours of the number on the grid of multiples of `10 ^ k`, the one that reads back, the
nearer if both do. -/
def neighbour? (x : Binary64) (k : Int) : Option Nat :=
  let grid := decimalRatio 1 k
  let num := x.ratio.1 * grid.2
  let den := x.ratio.2 * grid.1
  let below := num / den
  match x.readsBack below k, x.readsBack (below + 1) k with
  | true, true => some (nearestEven num den)
  | true, false => some below
  | false, true => some (below + 1)
  | false, false => none

/-- Searches the grids from coarse to fine: `count` digits first, then one more each time. -/
def shortestFrom (x : Binary64) (point : Int) (count : Nat) : Nat → Nat × Int
  | 0 => (x.ratio.1 / x.ratio.2, 0)
  | fuel + 1 =>
    match x.neighbour? (point - count) with
    | some n => (n, point - count)
    | none => shortestFrom x point (count + 1) fuel

/-- The digits `d₁ … dₙ` and the power `k` of the shortest `d₁…dₙ · 10 ^ k` that reads back. -/
def shortest (x : Binary64) : List Char × Int :=
  let r := x.ratio
  let (n, k) := shortestFrom x (pointAfter r.1 r.2) 1 18
  let digits := Nat.toDigits 10 n
  let kept := (digits.reverse.dropWhile (· == '0')).reverse
  (kept, k + (digits.length - kept.length : Nat))

/-- An exponent with its sign, also a plus, and no leading zero. -/
def exponentText (e : Int) : List Char :=
  'e' :: (if e < 0 then '-' else '+') :: Nat.toDigits 10 e.natAbs

def text (x : Binary64) : List Char :=
  let sign := if x.negative then ['-'] else []
  if x.isZero then sign ++ ['0', '.', '0']
  else
    let (digits, k) := x.shortest
    let point := k + digits.length
    if 0 ≤ k && point ≤ 16 then sign ++ digits ++ List.replicate k.toNat '0' ++ ['.', '0']
    else if 0 < point && point ≤ 16 then
      sign ++ digits.take point.toNat ++ '.' :: digits.drop point.toNat
    else if -5 < point && point ≤ 0 then sign ++ ['0', '.'] ++ List.replicate (-point).toNat '0' ++ digits
    else
      match digits with
      | [d] => sign ++ d :: exponentText (point - 1)
      | d :: rest => sign ++ d :: '.' :: rest ++ exponentText (point - 1)
      | [] => sign

end DeviceAgent.Binary64
