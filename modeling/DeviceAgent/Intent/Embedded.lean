import DeviceAgent.Intent.Basic
import DeviceAgent.Json.Reader

/-!
# Intents inside free text

A language model wraps its action objects in prose. The text is scanned for balanced brace groups, minding
string literals inside a group, and the first group that reads as an intent counts.
-/

namespace DeviceAgent

structure Scan where
  depth : Nat
  inString : Bool
  escaped : Bool
deriving DecidableEq, Repr

namespace Scan

def start : Scan := ⟨0, false, false⟩

def step (s : Scan) (b : UInt8) : Scan :=
  if 0 < s.depth && s.inString then
    if s.escaped then { s with escaped := false }
    else if b = 0x5C then { s with escaped := true }
    else if b = 0x22 then { s with inString := false }
    else s
  else if b = 0x22 then (if 0 < s.depth then { s with inString := true } else s)
  else if b = 0x7B then { s with depth := s.depth + 1 }
  else if b = 0x7D then { s with depth := s.depth - 1 }
  else s

def run (s : Scan) (bs : List UInt8) : Scan := bs.foldl step s

/-- The groups that close in the rest of a text, `group` being the open one so far in reverse. -/
def groups (s : Scan) (group : List UInt8) : List UInt8 → List (List UInt8)
  | [] => []
  | b :: rest =>
    let next := s.step b
    if next.depth = 0 then
      if s.depth = 0 then groups next [] rest else (b :: group).reverse :: groups next [] rest
    else groups next (b :: group) rest

end Scan

/-- The balanced outermost `{…}` groups of a text, in order; one that stays open is left out. -/
def objectSpans (text : String) : List String :=
  (Scan.start.groups [] (Text.octets text)).filterMap Text.ofOctets?

/-- How many groups are tried. -/
def candidateLimit : Nat := 16

/-- The size of a group in octets beyond which it is passed over. -/
def spanLimit : Nat := 8192

def Intent.ofText? (text : String) : Option Intent :=
  (Json.read? (Text.octets text)).bind Intent.ofJson?

def embeddedIntent? (text : String) : Option Intent :=
  (((objectSpans text).take candidateLimit).filter fun span => (Text.octets span).length ≤ spanLimit).findSome?
    Intent.ofText?

end DeviceAgent
