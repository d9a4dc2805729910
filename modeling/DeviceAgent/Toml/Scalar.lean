import DeviceAgent.Json.Tree
import DeviceAgent.Text.Decimal

/-!
# Numbers and dates

The words that stand for themselves in a document: booleans, whole numbers in four bases, decimal fractions,
dates and times. A word is read as a whole.
-/

namespace DeviceAgent.Toml

def digitIn? (base : Nat) (c : Char) : Option Nat :=
  let n := c.toNat
  let d :=
    if '0' ≤ c && c ≤ '9' then some (n - 48)
    else if 'a' ≤ c && c ≤ 'f' then some (n - 87)
    else if 'A' ≤ c && c ≤ 'F' then some (n - 55)
    else none
  d.filter (· < base)

/-- Reads digits behind a digit; an underscore may stand between two of them. -/
def digitsAfter? (base value : Nat) : List Char → Option Nat
  | [] => some value
  | '_' :: c :: rest => (digitIn? base c).bind fun d => digitsAfter? base (value * base + d) rest
  | c :: rest => (digitIn? base c).bind fun d => digitsAfter? base (value * base + d) rest

/-- One or more digits of a base with single underscores between them. -/
def digits? (base : Nat) : List Char → Option Nat
  | [] => none
  | c :: rest => (digitIn? base c).bind fun d => digitsAfter? base d rest

/-- Decimal digits that do not start with a needless zero. -/
def wholeDigits? : List Char → Option Nat
  | ['0'] => some 0
  | '0' :: _ => none
  | cs => digits? 10 cs

/-- Takes a sign off, true for minus. -/
def sign : List Char → Bool × List Char
  | '-' :: rest => (true, rest)
  | '+' :: rest => (false, rest)
  | rest => (false, rest)

/-- A whole number of the signed 64-bit range. -/
def integer? (word : List Char) : Option Int :=
  let value := match word with
    | '0' :: 'x' :: rest => (digits? 16 rest).map Int.ofNat
    | '0' :: 'o' :: rest => (digits? 8 rest).map Int.ofNat
    | '0' :: 'b' :: rest => (digits? 2 rest).map Int.ofNat
    | _ =>
      let (minus, rest) := sign word
      (wholeDigits? rest).map fun n => if minus then -(n : Int) else n
  value.filter Text.inInt64

def digitCount (cs : List Char) : Nat := (cs.filter (· != '_')).length

/-- `n · 10 ^ k` rounded, none when it is out of range. Powers far outside the range are not formed. -/
def decimal? (negative : Bool) (n : Nat) (k : Int) : Option Binary64 :=
  let size := (Nat.toDigits 10 n).length + k
  if n = 0 || size < -400 then some (Binary64.zero negative)
  else if 400 < size then none
  else if 0 ≤ k then Binary64.ofRatio negative (n * Nat.pow 10 k.toNat) 1
  else Binary64.ofRatio negative n (Nat.pow 10 (-k).toNat)

/-- A decimal fraction: a whole part, then a fraction or an exponent or both. What is too small for the range is
minus infinity; what is too large is refused. -/
def fraction? (word : List Char) : Option (Option Binary64) :=
  let (minus, rest) := sign word
  let isMark := fun c => c == 'e' || c == 'E'
  let mantissa := rest.takeWhile (! isMark ·)
  let exponent := match rest.dropWhile (! isMark ·) with
    | [] => some none
    | _ :: cs =>
      let (minus, ds) := sign cs
      (digits? 10 ds).map fun n => some (if minus then -(n : Int) else (n : Int))
  let whole := mantissa.takeWhile (· != '.')
  let decimals := match mantissa.dropWhile (· != '.') with
    | [] => some none
    | _ :: cs => (digits? 10 cs).map fun n => some (n, digitCount cs)
  let value := match wholeDigits? whole, decimals, exponent with
    | some n, some none, some (some e) => some (decimal? minus n e)
    | some n, some (some (d, places)), some e =>
      some (decimal? minus (n * Nat.pow 10 places + d) (e.getD 0 - places))
    | _, _, _ => none
  value.filter fun x => x.isSome || minus

/-- A word for a number that has no decimal digits. -/
def isSpecialNumber (word : List Char) : Bool :=
  let rest := (sign word).2
  rest == "inf".toList || rest == "nan".toList

/-- A fixed number of decimal digits, and what follows them. -/
def fixedDigits? (count : Nat) (cs : List Char) : Option (Nat × List Char) :=
  if (cs.take count).length = count then (Text.natural? (cs.take count)).map fun n => (n, cs.drop count) else none

def afterChar? (c : Char) : List Char → Option (List Char)
  | d :: rest => if d = c then some rest else none
  | [] => none

def daysIn (year month : Nat) : Nat :=
  if month = 2 then
    if year % 4 = 0 && (year % 100 != 0 || year % 400 = 0) then 29 else 28
  else if month = 4 || month = 6 || month = 9 || month = 11 then 30
  else 31

def date? (cs : List Char) : Option (List Char) := do
  let (year, cs) ← fixedDigits? 4 cs
  let (month, cs) ← fixedDigits? 2 (← afterChar? '-' cs)
  let (day, cs) ← fixedDigits? 2 (← afterChar? '-' cs)
  if 1 ≤ month && month ≤ 12 && 1 ≤ day && day ≤ daysIn year month then some cs else none

def hourMinute? (cs : List Char) : Option (List Char) := do
  let (hour, cs) ← fixedDigits? 2 cs
  let (minute, cs) ← fixedDigits? 2 (← afterChar? ':' cs)
  if hour ≤ 23 && minute ≤ 59 then some cs else none

def time? (cs : List Char) : Option (List Char) := do
  let cs ← hourMinute? cs
  let (second, cs) ← fixedDigits? 2 (← afterChar? ':' cs)
  if 60 < second then none
  else match cs with
    | '.' :: rest =>
      let isDigit := fun c => (Text.digit? c).isSome
      if (rest.takeWhile isDigit).isEmpty then none else some (rest.dropWhile isDigit)
    | _ => some cs

/-- An offset from universal time, or nothing. -/
def isOffset : List Char → Bool
  | [] | ['Z'] | ['z'] => true
  | '+' :: rest | '-' :: rest => hourMinute? rest == some []
  | _ => false

/-- A time of day alone, a date alone, or a date with a time and perhaps an offset. -/
def isDateTime (word : List Char) : Bool :=
  time? word == some [] ||
    match date? word with
    | some [] => true
    | some (c :: rest) =>
      (c == 'T' || c == 't' || c == ' ') && (time? rest).any isOffset
    | none => false

def scalar? (word : List Char) : Option Tree :=
  if word = "true".toList then some (.bool true)
  else if word = "false".toList then some (.bool false)
  else if isDateTime word then
    some (.object [(some "$__toml_private_datetime", .string (some (String.ofList word)))])
  else if isSpecialNumber word then some (.number none)
  else match integer? word with
    | some n => some (.number (some (.int n)))
    | none => (fraction? word).map fun x => .number (x.map .float)

end DeviceAgent.Toml
