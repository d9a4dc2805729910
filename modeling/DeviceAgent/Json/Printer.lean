import DeviceAgent.Decimal.Shortest
import DeviceAgent.Json.Basic
import DeviceAgent.Text.Octets

/-!
# Compact JSON text

A value as octets without blanks, members in the order in which they stand. Inside strings only the quote,
the backslash and the control characters are escaped.
-/

namespace DeviceAgent.Json

def ascii (cs : List Char) : List UInt8 :=
  cs.map fun c => c.toNat.toUInt8

def hexDigit (n : Nat) : UInt8 :=
  (if n < 10 then 48 + n else 87 + n).toUInt8

def escapeOctet (b : UInt8) : List UInt8 :=
  if b = 0x22 then [0x5C, 0x22]
  else if b = 0x5C then [0x5C, 0x5C]
  else if b = 0x08 then [0x5C, 0x62]
  else if b = 0x0C then [0x5C, 0x66]
  else if b = 0x0A then [0x5C, 0x6E]
  else if b = 0x0D then [0x5C, 0x72]
  else if b = 0x09 then [0x5C, 0x74]
  else if b < 0x20 then [0x5C, 0x75, 0x30, 0x30, hexDigit (b.toNat / 16), hexDigit (b.toNat % 16)]
  else [b]

def printString (s : String) : List UInt8 :=
  0x22 :: (Text.octets s).flatMap escapeOctet ++ [0x22]

def printNumber : Number → List UInt8
  | .int n => ascii (toString n).toList
  | .float x => ascii x.text

mutual

def print : Json → List UInt8
  | .null => [0x6E, 0x75, 0x6C, 0x6C]
  | .bool true => [0x74, 0x72, 0x75, 0x65]
  | .bool false => [0x66, 0x61, 0x6C, 0x73, 0x65]
  | .number n => printNumber n
  | .string s => printString s
  | .array items => 0x5B :: printItems items ++ [0x5D]
  | .object members => 0x7B :: printMembers members ++ [0x7D]

def printItems : List Json → List UInt8
  | [] => []
  | [v] => v.print
  | v :: rest => v.print ++ 0x2C :: printItems rest

def printMembers : List (String × Json) → List UInt8
  | [] => []
  | [(k, v)] => printString k ++ 0x3A :: v.print
  | (k, v) :: rest => printString k ++ 0x3A :: (v.print ++ 0x2C :: printMembers rest)

end

def printed (v : Json) : String :=
  Text.lossy v.print

end DeviceAgent.Json
