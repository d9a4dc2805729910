import DeviceAgent.Json.Tree

/-!
# Records

How a record of named fields is found in a written value: as an object, whose unknown members are ignored and
whose known ones may not repeat, or as an array of its fields in order.
-/

namespace DeviceAgent

namespace Tree

structure Notation where
  /-- What may stand for the empty content of a variant. -/
  isUnit : Tree → Bool
  /-- Whether items beyond the fields of a record are refused. -/
  exact : Bool

/-- JSON: `null` is the empty content and arrays hold no more than the fields. -/
def jsonNotation : Notation where
  isUnit
    | .null => true
    | _ => false
  exact := true

/-- What was written for one field. -/
inductive Slot where
  | given (t : Tree)
  | absent
  /-- The array form ended before this field. -/
  | cut

def positional : List (List String) → List Tree → List Slot
  | [], _ => []
  | _ :: names, t :: ts => .given t :: positional names ts
  | _ :: names, [] => .cut :: positional names []

def named (names : List String) (members : List (Option String × Tree)) : List Tree :=
  (members.filter fun (k, _) => k.any names.contains).map Prod.snd

/-- One slot for each field, a field being a list of names of which the first is the one that is written. -/
def slots? (n : Notation) (fields : List (List String)) : Tree → Option (List Slot)
  | .array items =>
    if n.exact && fields.length < items.length then none else some (positional fields items)
  | .object members =>
    if members.any fun (k, _) => k.isNone then none
    else fields.mapM fun names =>
      match named names members with
      | [] => some .absent
      | [t] => some (.given t)
      | _ => none
  | _ => none

namespace Slot

def required (read : Tree → Option α) : Slot → Option α
  | .given t => read t
  | _ => none

def orElse (default : α) (read : Tree → Option α) : Slot → Option α
  | .given t => read t
  | _ => some default

/-- A field that may be missing from an object but not from an array. -/
def nullable (read : Tree → Option α) : Slot → Option (Option α)
  | .given .null => some none
  | .given t => (read t).map some
  | .absent => some none
  | .cut => none

end Slot

def option? (read : Tree → Option α) : Tree → Option (Option α)
  | .null => some none
  | t => (read t).map some

def string? : Tree → Option String
  | .string s => s
  | _ => none

def bool? : Tree → Option Bool
  | .bool b => some b
  | _ => none

def natUpTo? (bound : Nat) : Tree → Option Nat
  | .number (some (.int n)) => if 0 ≤ n && n ≤ bound then some n.toNat else none
  | _ => none

def float? : Tree → Option Binary64
  | .number (some (.float x)) => some x
  | .number (some (.int n)) => Binary64.ofRatio (n < 0) n.natAbs 1
  | _ => none

/-- A value with at most `depth` nested containers. -/
def json? (depth : Nat) (t : Tree) : Option Json :=
  t.value? depth

def object? (depth : Nat) (t : Tree) : Option (List (String × Json)) :=
  match t.value? depth with
  | some (.object members) => some members
  | _ => none

/-- The name of a variant without content: a string, or an object that gives the name an empty content. -/
def variant? (n : Notation) : Tree → Option String
  | .string s => s
  | .object [(k, t)] => if n.isUnit t then k else none
  | _ => none

/-- The first element of a list of named values that a variant names. -/
def choice? (n : Notation) (choices : List (String × α)) (t : Tree) : Option α :=
  (t.variant? n).bind fun name => choices.lookup name

end Tree

end DeviceAgent
