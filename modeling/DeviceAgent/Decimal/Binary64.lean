/-!
# Double-precision numbers

Finite binary64 numbers as exact dyadic fractions, and rounding of exact quotients to the nearest of them, a
tie going to the even neighbour. All arithmetic is on whole numbers.
-/

namespace DeviceAgent

/-- The finite number `± mantissa · 2 ^ exponent`. Rounding yields mantissas below `2 ^ 53` and exponents
from `-1074` to `971`. -/
structure Binary64 where
  negative : Bool
  mantissa : Nat
  exponent : Int
deriving DecidableEq, Repr

namespace Binary64

def leastExponent : Int := -1074

def greatestExponent : Int := 971

def zero (negative : Bool) : Binary64 := ⟨negative, 0, leastExponent⟩

def isZero (x : Binary64) : Bool := x.mantissa == 0

def neg (x : Binary64) : Binary64 := { x with negative := ! x.negative }

/-- The size of a number as a quotient of whole numbers. -/
def ratio (x : Binary64) : Nat × Nat :=
  if 0 ≤ x.exponent then (x.mantissa * Nat.pow 2 x.exponent.toNat, 1)
  else (x.mantissa, Nat.pow 2 (-x.exponent).toNat)

/-- The whole number nearest to `num / den`, a tie going to the even one. -/
def nearestEven (num den : Nat) : Nat :=
  let q := num / den
  let r := num % den
  if 2 * r < den then q
  else if den < 2 * r then q + 1
  else if q % 2 = 0 then q else q + 1

/-- `num / den` in units of `2 ^ e`, as a quotient. -/
def inUnits (num den : Nat) (e : Int) : Nat × Nat :=
  if 0 ≤ e then (num, den * Nat.pow 2 e.toNat) else (num * Nat.pow 2 (-e).toNat, den)

/-- The number nearest to `num / den`; none when it is out of range. -/
def ofRatio (negative : Bool) (num den : Nat) : Option Binary64 :=
  if num = 0 then some (zero negative)
  else
    let guess := max ((Nat.log2 num : Int) - (Nat.log2 den : Int) - 53) leastExponent
    let wide := inUnits num den guess
    let e := if Nat.pow 2 53 ≤ wide.1 / wide.2 then guess + 1 else guess
    let units := inUnits num den e
    let m := nearestEven units.1 units.2
    let x : Binary64 := if m = Nat.pow 2 53 then ⟨negative, Nat.pow 2 52, e + 1⟩ else ⟨negative, m, e⟩
    if greatestExponent < x.exponent then none else some x

def ofNat? (n : Nat) : Option Binary64 := ofRatio false n 1

/-- The rounded product; none when it is out of range. -/
def mul? (x y : Binary64) : Option Binary64 :=
  let a := x.ratio
  let b := y.ratio
  ofRatio (x.negative != y.negative) (a.1 * b.1) (a.2 * b.2)

/-- The rounded quotient; none when it is out of range or the divisor is zero. -/
def div? (x y : Binary64) : Option Binary64 :=
  let a := x.ratio
  let b := y.ratio
  if b.1 = 0 then none else ofRatio (x.negative != y.negative) (a.1 * b.2) (a.2 * b.1)

def greatestPower : Nat := 308

def powerOfTen? (k : Nat) : Option Binary64 := ofNat? (Nat.pow 10 k)

/-- A number times `10 ^ exponent`, by one rounded product or quotient with a power of ten in range; smaller
factors are divided off in steps of the greatest power. None when the result is too large. -/
def scale? (x : Binary64) (exponent : Int) : Option Binary64 :=
  if x.isZero then some x
  else if exponent < -(greatestPower : Int) then
    ((powerOfTen? greatestPower).bind (div? x)).bind fun y => scale? y (exponent + greatestPower)
  else if exponent < 0 then (powerOfTen? (-exponent).toNat).bind (div? x)
  else if exponent ≤ greatestPower then (powerOfTen? exponent.toNat).bind (mul? x)
  else none
termination_by (-exponent).toNat
decreasing_by
  simp only [greatestPower] at *
  omega

/-- The nearest whole number, a half going away from zero. -/
def roundAway (x : Binary64) : Int :=
  let r := x.ratio
  let n := (2 * r.1 + r.2) / (2 * r.2)
  if x.negative then -(n : Int) else n

end Binary64

end DeviceAgent
