/-!
# Decimal integers

Signed and unsigned whole numbers as ASCII digits, with the bounds of the 64-bit words they are kept in.
-/

namespace DeviceAgent.Text

def digit? (c : Char) : Option Nat :=
  if '0' ≤ c && c ≤ '9' then some (c.toNat - '0'.toNat) else none

/-- The number written by the digits after those that gave `value`. -/
def digitsFrom? (value : Nat) : List Char → Option Nat
  | [] => some value
  | c :: rest => (digit? c).bind fun d => digitsFrom? (value * 10 + d) rest

def natural? : List Char → Option Nat
  | [] => none
  | cs => digitsFrom? 0 cs

/-- The bounds of a signed 64-bit word. -/
def inInt64 (n : Int) : Bool :=
  -9223372036854775808 ≤ n && n ≤ 9223372036854775807

/-- Brings a whole number into a signed 64-bit word: a sum that leaves it comes back in at the other end. -/
def wrapInt64 (n : Int) : Int :=
  n.bmod 18446744073709551616

theorem wrapInt64_of_inInt64 {n : Int} (h : inInt64 n = true) : wrapInt64 n = n := by
  simp only [inInt64, Bool.and_eq_true, decide_eq_true_eq] at h
  exact Int.bmod_eq_of_le (by omega) (by omega)

/-- A sign or none, then digits, within a signed 64-bit word. -/
def int64? (cs : List Char) : Option Int :=
  let value := match cs with
    | '-' :: rest => (natural? rest).map fun n => -(n : Int)
    | '+' :: rest => (natural? rest).map fun n => (n : Int)
    | rest => (natural? rest).map fun n => (n : Int)
  value.filter inInt64

end DeviceAgent.Text
