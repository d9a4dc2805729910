import DeviceAgent.Decimal.Binary64

/-!
# JSON values

A JSON value with exact numbers. The members of an object are a list of pairs; those of a value that was read
are in strictly increasing order of keys (`Json.Canonical`), those of a message that is written stand in the
order of its fields.
-/

namespace DeviceAgent

/-- A JSON number: a whole number that fits a signed or an unsigned 64-bit word, or a binary64. -/
inductive Number where
  | int (value : Int)
  | float (value : Binary64)
deriving DecidableEq, Repr

inductive Json where
  | null
  | bool (value : Bool)
  | number (value : Number)
  | string (value : String)
  | array (items : List Json)
  | object (members : List (String × Json))
deriving Repr

namespace Json

def ofInt (n : Int) : Json := .number (.int n)

def ofNat (n : Nat) : Json := .number (.int n)

def string? : Json → Option String
  | .string s => some s
  | _ => none

def bool? : Json → Option Bool
  | .bool b => some b
  | _ => none

def member? (key : String) (members : List (String × Json)) : Option Json :=
  members.lookup key

def field? (key : String) : Json → Option Json
  | .object members => member? key members
  | _ => none

def item? (index : Nat) : Json → Option Json
  | .array items => items[index]?
  | _ => none

/-- Puts a member into members in increasing order of keys; an earlier value of the key gives way. -/
def insert (key : String) (value : Json) : List (String × Json) → List (String × Json)
  | [] => [(key, value)]
  | (k, v) :: rest =>
    if key < k then (key, value) :: (k, v) :: rest
    else if k < key then (k, v) :: insert key value rest
    else (key, value) :: rest

/-- The members in increasing order of keys, of several with one key the last. -/
def ordered (members : List (String × Json)) : List (String × Json) :=
  members.foldl (fun acc (k, v) => insert k v acc) []

mutual

def depth : Json → Nat
  | .array items => depthItems items + 1
  | .object members => depthMembers members + 1
  | _ => 0

def depthItems : List Json → Nat
  | [] => 0
  | v :: rest => max v.depth (depthItems rest)

def depthMembers : List (String × Json) → Nat
  | [] => 0
  | (_, v) :: rest => max v.depth (depthMembers rest)

end

mutual

/-- Every object in the value has its keys in strictly increasing order. -/
def Canonical : Json → Prop
  | .array items => CanonicalItems items
  | .object members => (members.map Prod.fst).Pairwise (· < ·) ∧ CanonicalMembers members
  | _ => True

def CanonicalItems : List Json → Prop
  | [] => True
  | v :: rest => v.Canonical ∧ CanonicalItems rest

def CanonicalMembers : List (String × Json) → Prop
  | [] => True
  | (_, v) :: rest => v.Canonical ∧ CanonicalMembers rest

end

end Json

end DeviceAgent
