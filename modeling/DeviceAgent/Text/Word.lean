import DeviceAgent.Text.AlphanumericTable
import DeviceAgent.Text.Case

/-!
# Letters, search and splitting

Which characters are letters or numbers, whether a text occurs inside another, and cutting a text into lines.
-/

namespace DeviceAgent.Text

/-- A letter or number of any script: property `Alphabetic` or a numeric general category. -/
def isAlphanumeric (c : Char) : Bool :=
  let n := c.toNat
  if n < 0x80 then (0x30 ≤ n && n ≤ 0x39) || (0x41 ≤ n && n ≤ 0x5A) || (0x61 ≤ n && n ≤ 0x7A)
  else inRanges alphanumericRanges n

/-- Whether `needle` stands somewhere in the text. -/
def occursIn (needle : List Char) : List Char → Bool
  | [] => needle.isEmpty
  | c :: rest => needle.isPrefixOf (c :: rest) || occursIn needle rest

def contains (hay needle : String) : Bool :=
  occursIn needle.toList hay.toList

/-- A text occurs in another exactly when it is an infix of it. -/
theorem occursIn_iff {needle hay : List Char} : occursIn needle hay = true ↔ needle <:+: hay := by
  induction hay with
  | nil => simp [occursIn]
  | cons c rest ih =>
    rw [occursIn, Bool.or_eq_true, List.isPrefixOf_iff_prefix, ih]
    exact List.infix_cons_iff.symm

/-- The lines of a text: cut after each line feed, without the line feed and one carriage return before it;
an empty rest after the last line feed is no line. -/
def lines (cs : List Char) : List (List Char) :=
  let parts := cs.splitOnP (· == '\n')
  let dropReturn := fun (line : List Char) =>
    if line.getLast? = some '\r' then line.dropLast else line
  match parts.getLast? with
  | some [] => parts.dropLast.map dropReturn
  | some last => parts.dropLast.map dropReturn ++ [last]
  | none => []

/-- The part of a text in front of a given ending, when the text ends so. -/
def dropEnding? (ending cs : List Char) : Option (List Char) :=
  if ending.isSuffixOf cs then some (cs.take (cs.length - ending.length)) else none

end DeviceAgent.Text
