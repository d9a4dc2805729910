import DeviceAgent.Json.Basic

/-!
# JSON as it was written

A tree keeps what the text of a value says and no more: members in their order and with repeated keys, and a
leaf without content where a number is out of range or a string cannot be decoded. Such leaves spoil a value
but not a field that nobody looks at.
-/

namespace DeviceAgent

/-- The written form of a JSON value. -/
inductive Tree where
  | null
  | bool (value : Bool)
  | number (value : Option Number)
  | string (value : Option String)
  | array (items : List Tree)
  | object (members : List (Option String × Tree))
deriving Repr

namespace Tree

/-- The containers a value may nest. -/
def depthLimit : Nat := 127

mutual

/-- The value that a tree stands for, if every leaf has content and at most `depth` containers are nested. -/
def value? (depth : Nat) : Tree → Option Json
  | .null => some .null
  | .bool b => some (.bool b)
  | .number n => n.map .number
  | .string s => s.map .string
  | .array items => if depth = 0 then none else (values? (depth - 1) items).map .array
  | .object members =>
    if depth = 0 then none else (memberValues? (depth - 1) members).map fun ms => .object (Json.ordered ms)

def values? (depth : Nat) : List Tree → Option (List Json)
  | [] => some []
  | t :: rest => (t.value? depth).bind fun v => (values? depth rest).map (v :: ·)

def memberValues? (depth : Nat) : List (Option String × Tree) → Option (List (String × Json))
  | [] => some []
  | (k, t) :: rest =>
    k.bind fun key => (t.value? depth).bind fun v => (memberValues? depth rest).map ((key, v) :: ·)

end

mutual

def ofJson : Json → Tree
  | .null => .null
  | .bool b => .bool b
  | .number n => .number (some n)
  | .string s => .string (some s)
  | .array items => .array (ofItems items)
  | .object members => .object (ofMembers members)

def ofItems : List Json → List Tree
  | [] => []
  | v :: rest => ofJson v :: ofItems rest

def ofMembers : List (String × Json) → List (Option String × Tree)
  | [] => []
  | (k, v) :: rest => (some k, ofJson v) :: ofMembers rest

end

end Tree

end DeviceAgent
