import DeviceAgent.Text.CaseTable

/-!
# Lower case

Unicode lower-casing of a whole text: every character has one lower-case form, except that a capital I with
a dot above becomes two characters and a capital sigma takes its final form at the end of a word.
-/

namespace DeviceAgent.Text

/-- Whether a code point lies in one of the ranges. -/
def inRanges (ranges : List (Nat × Nat)) (n : Nat) : Bool :=
  ranges.any fun (lo, hi) => lo ≤ n && n ≤ hi

def isCased (c : Char) : Bool :=
  inRanges casedRanges c.toNat

def isCaseIgnorable (c : Char) : Bool :=
  inRanges caseIgnorableRanges c.toNat

def CaseRun.covers (run : CaseRun) (n : Nat) : Bool :=
  run.first ≤ n && n ≤ run.last && (n - run.first) % run.stride == 0

/-- The lower-case form of one character, taken without its neighbours. -/
def lowerChar (c : Char) : List Char :=
  let n := c.toNat
  if n < 0x80 then [if 0x41 ≤ n && n ≤ 0x5A then Char.ofNat (n + 32) else c]
  else if n = 0x130 then ['i', Char.ofNat 0x307]
  else match lowercaseRuns.find? (·.covers n) with
    | some run => [Char.ofNat (n + run.offset).toNat]
    | none => [c]

/-- Whether the next character that counts for case is a cased letter. -/
def continuesWord (rest : List Char) : Bool :=
  match rest.dropWhile isCaseIgnorable with
  | c :: _ => isCased c
  | [] => false

/-- Lower-cases a text whose preceding character that counts for case is, or is not, a cased letter. -/
def lowerAfter (inWord : Bool) : List Char → List Char
  | [] => []
  | c :: rest =>
    let next := if isCaseIgnorable c then inWord else isCased c
    if c = 'Σ' then (if inWord && ! continuesWord rest then 'ς' else 'σ') :: lowerAfter next rest
    else lowerChar c ++ lowerAfter next rest

def lower (cs : List Char) : List Char :=
  lowerAfter false cs

def lowered (s : String) : String :=
  String.ofList (lower s.toList)

end DeviceAgent.Text
