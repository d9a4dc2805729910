import DeviceAgent.Json.Tree
import DeviceAgent.Text.Octets

/-!
# Reading JSON text

A reader of octets by recursive descent. Number texts are valued with a significand of at most 64 bits and one
rounded multiplication or division by a power of ten. The number of nested containers is bounded by the
caller; the fuel is more than the octets can use.
-/

namespace DeviceAgent

namespace Json

def isSpace (b : UInt8) : Bool :=
  b == 0x20 || b == 0x0A || b == 0x0D || b == 0x09

def skipSpace (bs : List UInt8) : List UInt8 :=
  bs.dropWhile isSpace

def isDigit (b : UInt8) : Bool :=
  0x30 ≤ b && b ≤ 0x39

def digitValue (b : UInt8) : Nat :=
  b.toNat - 0x30

def after? (word bs : List UInt8) : Option (List UInt8) :=
  if word.isPrefixOf bs then some (bs.drop word.length) else none

def hexValue? (b : UInt8) : Option Nat :=
  if isDigit b then some (digitValue b)
  else if 0x61 ≤ b && b ≤ 0x66 then some (b.toNat - 87)
  else if 0x41 ≤ b && b ≤ 0x46 then some (b.toNat - 55)
  else none

/-- The 16-bit unit that four hexadecimal digits stand for. -/
def unit? (a b c d : UInt8) : Option Nat :=
  (hexValue? a).bind fun a => (hexValue? b).bind fun b => (hexValue? c).bind fun c =>
    (hexValue? d).map fun d => ((a * 16 + b) * 16 + c) * 16 + d

def escape? (b : UInt8) : Option UInt8 :=
  if b = 0x22 || b = 0x5C || b = 0x2F then some b
  else if b = 0x62 then some 0x08
  else if b = 0x66 then some 0x0C
  else if b = 0x6E then some 0x0A
  else if b = 0x72 then some 0x0D
  else if b = 0x74 then some 0x09
  else none

/-- The contents of a string so far, in reverse: none once it cannot be decoded. A leading surrogate waits
for its partner. -/
structure Contents where
  reversed : Option (List UInt8)
  surrogate : Option Nat

namespace Contents

def push (s : Contents) (b : UInt8) : Contents :=
  ⟨if s.surrogate.isSome then none else s.reversed.map (b :: ·), none⟩

def pushChar (s : Contents) (c : Char) : Contents :=
  ⟨s.reversed.map fun bs => (Text.octets c.toString).reverse ++ bs, none⟩

/-- Adds a 16-bit unit: a character, or half of one. -/
def pushUnit (s : Contents) (n : Nat) : Contents :=
  match s.surrogate with
  | some high =>
    if 0xDC00 ≤ n && n ≤ 0xDFFF then
      s.pushChar (Char.ofNat (0x10000 + (high - 0xD800) * 0x400 + (n - 0xDC00)))
    else ⟨none, none⟩
  | none =>
    if 0xD800 ≤ n && n ≤ 0xDBFF then ⟨s.reversed, some n⟩
    else if 0xDC00 ≤ n && n ≤ 0xDFFF then ⟨none, none⟩
    else s.pushChar (Char.ofNat n)

def finish? (s : Contents) : Option String :=
  if s.surrogate.isSome then none else s.reversed.bind fun bs => Text.ofOctets? bs.reverse

end Contents

/-- Reads a string behind its opening quote. -/
def readString (s : Contents) : List UInt8 → Option (Option String × List UInt8)
  | [] => none
  | b :: rest =>
    if b = 0x22 then some (s.finish?, rest)
    else if b = 0x5C then
      match rest with
      | [] => none
      | e :: rest =>
        if e = 0x75 then
          match rest with
          | h₁ :: h₂ :: h₃ :: h₄ :: rest =>
            match unit? h₁ h₂ h₃ h₄ with
            | some n => readString (s.pushUnit n) rest
            | none => none
          | _ => none
        else match escape? e with
          | some c => readString (s.push c) rest
          | none => none
    else if b < 0x20 then none
    else readString (s.push b) rest

structure NumberText where
  negative : Bool
  whole : List UInt8
  fraction : Option (List UInt8)
  exponent : Option (Bool × List UInt8)

def spanDigits (bs : List UInt8) : List UInt8 × List UInt8 :=
  (bs.takeWhile isDigit, bs.dropWhile isDigit)

/-- Reads the whole part: one zero, or digits that do not start with one. -/
def readWhole (bs : List UInt8) : Option (List UInt8 × List UInt8) :=
  match spanDigits bs with
  | ([], _) => none
  | ([d], rest) => some ([d], rest)
  | (d :: ds, rest) => if d = 0x30 then none else some (d :: ds, rest)

/-- Reads a point and at least one digit, or nothing. -/
def readFraction : List UInt8 → Option (Option (List UInt8) × List UInt8)
  | [] => some (none, [])
  | b :: rest =>
    if b = 0x2E then
      match spanDigits rest with
      | ([], _) => none
      | (ds, rest) => some (some ds, rest)
    else some (none, b :: rest)

/-- The sign of an exponent, true for minus. -/
def readSign : List UInt8 → Bool × List UInt8
  | [] => (false, [])
  | b :: rest => if b = 0x2D then (true, rest) else if b = 0x2B then (false, rest) else (false, b :: rest)

/-- Reads an exponent mark, a sign or none and at least one digit, or nothing. -/
def readExponent : List UInt8 → Option (Option (Bool × List UInt8) × List UInt8)
  | [] => some (none, [])
  | b :: rest =>
    if b = 0x65 || b = 0x45 then
      let (minus, rest) := readSign rest
      match spanDigits rest with
      | ([], _) => none
      | (ds, rest) => some (some (minus, ds), rest)
    else some (none, b :: rest)

def readNumber (negative : Bool) (bs : List UInt8) : Option (NumberText × List UInt8) :=
  (readWhole bs).bind fun (whole, rest) => (readFraction rest).bind fun (fraction, rest) =>
    (readExponent rest).map fun (exponent, rest) => (⟨negative, whole, fraction, exponent⟩, rest)

def digitsValue (ds : List UInt8) : Nat :=
  ds.foldl (fun n d => n * 10 + digitValue d) 0

/-- Takes digits into a significand as long as it stays below `2 ^ 64`; the digits left over are counted. -/
def takeDigits (significand : Nat) : List UInt8 → Nat × Nat
  | [] => (significand, 0)
  | d :: ds =>
    let next := significand * 10 + digitValue d
    if next < Nat.pow 2 64 then takeDigits next ds else (significand, ds.length + 1)

/-- The binary64 that a number text stands for: whole digits beyond the significand scale it, further fraction
digits are dropped. -/
def NumberText.float? (t : NumberText) : Option Binary64 :=
  let (wholeSignificand, scale) := takeDigits 0 t.whole
  let fraction := t.fraction.getD []
  let (significand, dropped) := takeDigits wholeSignificand fraction
  let shift := match t.exponent with
    | some (minus, ds) => if minus then -(digitsValue ds : Int) else (digitsValue ds : Int)
    | none => 0
  let exponent := (scale : Int) - (fraction.length - dropped : Nat) + shift
  ((Binary64.ofNat? significand).bind (Binary64.scale? · exponent)).map fun x =>
    if t.negative then x.neg else x

/-- The number that a number text stands for: whole within a 64-bit word, negative zero and all else as
binary64, none when that is out of range. -/
def NumberText.number? (t : NumberText) : Option Number :=
  let n := digitsValue t.whole
  if t.fraction.isNone && t.exponent.isNone then
    if ! t.negative then
      if n < Nat.pow 2 64 then some (.int n) else t.float?.map .float
    else if 0 < n && n ≤ Nat.pow 2 63 then some (.int (-(n : Int)))
    else t.float?.map .float
  else t.float?.map .float

mutual

/-- Reads a value with at most `depth` nested containers. -/
def readValue : (fuel depth : Nat) → List UInt8 → Option (Tree × List UInt8)
  | 0, _, _ => none
  | fuel + 1, depth, bs =>
    match skipSpace bs with
    | [] => none
    | b :: rest =>
      if b = 0x22 then (readString ⟨some [], none⟩ rest).map fun (s, rest) => (.string s, rest)
      else if b = 0x7B then
        if depth = 0 then none
        else match skipSpace rest with
          | [] => none
          | c :: rest' =>
            if c = 0x7D then some (.object [], rest')
            else (readMembers fuel (depth - 1) [] (c :: rest')).map fun (ms, rest) => (.object ms, rest)
      else if b = 0x5B then
        if depth = 0 then none
        else match skipSpace rest with
          | [] => none
          | c :: rest' =>
            if c = 0x5D then some (.array [], rest')
            else (readItems fuel (depth - 1) [] (c :: rest')).map fun (ts, rest) => (.array ts, rest)
      else if b = 0x6E then (after? [0x75, 0x6C, 0x6C] rest).map fun rest => (.null, rest)
      else if b = 0x74 then (after? [0x72, 0x75, 0x65] rest).map fun rest => (.bool true, rest)
      else if b = 0x66 then (after? [0x61, 0x6C, 0x73, 0x65] rest).map fun rest => (.bool false, rest)
      else if b = 0x2D then (readNumber true rest).map fun (t, rest) => (.number t.number?, rest)
      else if isDigit b then (readNumber false (b :: rest)).map fun (t, rest) => (.number t.number?, rest)
      else none

/-- Reads the items of an array up to its end, behind those already read. -/
def readItems : (fuel depth : Nat) → List Tree → List UInt8 → Option (List Tree × List UInt8)
  | 0, _, _, _ => none
  | fuel + 1, depth, done, bs =>
    match readValue fuel depth bs with
    | none => none
    | some (t, rest) =>
      match skipSpace rest with
      | [] => none
      | b :: rest =>
        if b = 0x5D then some ((t :: done).reverse, rest)
        else if b = 0x2C then readItems fuel depth (t :: done) rest
        else none

/-- Reads the members of an object up to its end, behind those already read. -/
def readMembers : (fuel depth : Nat) → List (Option String × Tree) → List UInt8 →
    Option (List (Option String × Tree) × List UInt8)
  | 0, _, _, _ => none
  | fuel + 1, depth, done, bs =>
    match skipSpace bs with
    | [] => none
    | q :: rest =>
      if q = 0x22 then
        match readString ⟨some [], none⟩ rest with
        | none => none
        | some (key, rest) =>
          match skipSpace rest with
          | [] => none
          | c :: rest =>
            if c = 0x3A then
              match readValue fuel depth rest with
              | none => none
              | some (t, rest) =>
                match skipSpace rest with
                | [] => none
                | b :: rest =>
                  if b = 0x7D then some (((key, t) :: done).reverse, rest)
                  else if b = 0x2C then readMembers fuel depth ((key, t) :: done) rest
                  else none
            else none
      else none

end

end Json

namespace Tree

/-- Reads a whole text as one value with at most `depth` nested containers and nothing but blanks around it. -/
def read? (depth : Nat) (bs : List UInt8) : Option Tree :=
  match Json.readValue (2 * bs.length + 2) depth bs with
  | some (t, rest) => if (Json.skipSpace rest).isEmpty then some t else none
  | none => none

end Tree

def Json.read? (bs : List UInt8) : Option Json :=
  (Tree.read? Tree.depthLimit bs).bind (Tree.value? Tree.depthLimit)

end DeviceAgent
