import DeviceAgent.Json.Record

/-!
# Tables under construction

A document builds its tables line by line: headers open tables, dotted keys make tables on the way. Each table
remembers how it came about, because a table may be completed only in the way it was begun.
-/

namespace DeviceAgent.Toml

structure Origin where
  /-- No header has opened it yet. -/
  implicit : Bool
  /-- A dotted key made it. -/
  dotted : Bool
deriving DecidableEq, Repr

def Origin.opened : Origin := ⟨false, false⟩

inductive Node where
  | value (t : Tree)
  | table (origin : Origin) (entries : List (String × Node))
  /-- Tables that share a name; the last one is under construction. -/
  | tables (items : List (List (String × Node)))

abbrev Entries := List (String × Node)

/-- Gives a key that is there a new node. -/
def replace (key : String) (node : Node) (entries : Entries) : Entries :=
  entries.map fun (k, n) => (k, if k = key then node else n)

/-- Changes the table at the end of a path. Tables that are missing on the way are made; on the way of a
dotted key only tables without a header are entered. -/
def updateAt (dotted : Bool) (change : Origin → Entries → Option Entries) :
    List String → Origin → Entries → Option Entries
  | [], origin, entries => change origin entries
  | key :: path, _, entries =>
    match entries.lookup key with
    | none =>
      (updateAt dotted change path ⟨true, dotted⟩ []).map fun sub =>
        entries ++ [(key, .table ⟨true, dotted⟩ sub)]
    | some (.table origin sub) =>
      if dotted && ! origin.implicit then none
      else (updateAt dotted change path origin sub).map fun sub => replace key (.table origin sub) entries
    | some (.tables items) =>
      match items.getLast? with
      | some last =>
        (updateAt dotted change path .opened last).map fun last =>
          replace key (.tables (items.dropLast ++ [last])) entries
      | none => none
    | some (.value _) => none

/-- Adds a value under a dotted key: to a table that dotted keys made if the key has several parts, to any
other if it has one. -/
def addValue (path : List String) (key : String) (t : Tree) : Origin → Entries → Option Entries :=
  updateAt true (fun origin entries =>
    if origin.dotted == path.isEmpty then none
    else match entries.lookup key with
      | none => some (entries ++ [(key, .value t)])
      | some _ => none) path

def openTable (path : List String) (key : String) (root : Entries) : Option Entries :=
  updateAt false (fun _ entries =>
    match entries.lookup key with
    | none => some (entries ++ [(key, .table .opened [])])
    | some (.table origin sub) =>
      if origin.implicit && ! origin.dotted then some (replace key (.table .opened sub) entries) else none
    | some _ => none) path .opened root

/-- Opens one more of several tables by its header. -/
def openItem (path : List String) (key : String) (root : Entries) : Option Entries :=
  updateAt false (fun _ entries =>
    match entries.lookup key with
    | none => some (entries ++ [(key, .tables [[]])])
    | some (.tables items) => some (replace key (.tables (items ++ [[]])) entries)
    | some _ => none) path .opened root

mutual

def Node.tree : Node → Tree
  | .value t => t
  | .table _ entries => .object (memberTrees entries)
  | .tables items => .array (itemTrees items)

def memberTrees : Entries → List (Option String × Tree)
  | [] => []
  | (k, n) :: rest => (some k, n.tree) :: memberTrees rest

def itemTrees : List Entries → List Tree
  | [] => []
  | entries :: rest => .object (memberTrees entries) :: itemTrees rest

end

/-- How settings are written in this format: an empty table or array is the empty content of a variant, and
items beyond the fields of a record are ignored. -/
def tableNotation : Tree.Notation where
  isUnit
    | .object [] | .array [] => true
    | _ => false
  exact := false

end DeviceAgent.Toml
