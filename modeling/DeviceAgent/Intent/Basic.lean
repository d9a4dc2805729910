import DeviceAgent.Json.Record
import DeviceAgent.Text.Blank

/-!
# Intents and outcomes

An intent is a named action with parameters. It comes in two shapes, `{"name": …, "params": {…}}` and the flat
`{"action": …, …}`. An outcome says whether the action took place.
-/

namespace DeviceAgent

structure Intent where
  name : String
  params : List (String × Json)

namespace Intent

def named (name : String) : Intent := ⟨name, []⟩

def single (name key : String) (value : Json) : Intent := ⟨name, [(key, value)]⟩

/-- Reads an intent in either shape. A string under `name` decides for the first shape, whose parameters have
to be an object, null or missing; otherwise `action` names the intent and the other members are its
parameters. -/
def ofJson? : Json → Option Intent
  | .object members =>
    match (Json.member? "name" members).bind Json.string? with
    | some name =>
      match Json.member? "params" members with
      | some (.object params) => some ⟨Text.trimmed name, params⟩
      | some .null | none => some ⟨Text.trimmed name, []⟩
      | some _ => none
    | none =>
      ((Json.member? "action" members).bind Json.string?).map fun name =>
        ⟨Text.trimmed name, members.filter fun (k, _) => k != "action"⟩
  | _ => none

/-- The value of the first of these keys that is present. -/
def param? (keys : List String) (intent : Intent) : Option Json :=
  keys.findSome? fun key => Json.member? key intent.params

/-- Shutdown and reboot take the machine away. -/
def isDangerous (intent : Intent) : Bool :=
  intent.name == "shutdown" || intent.name == "reboot"

def toJson (intent : Intent) : Json :=
  .object [("name", .string intent.name), ("params", .object intent.params)]

/-- Reads the record of an intent, whose parameters may be left out; `depth` bounds the containers in it. -/
def ofTree? (depth : Nat) (t : Tree) : Option Intent :=
  match t.slots? Tree.jsonNotation [["name"], ["params"]] with
  | some [name, params] =>
    (name.required Tree.string?).bind fun name =>
      (params.orElse [] (Tree.object? (depth - 1))).map fun params => ⟨name, params⟩
  | _ => none

end Intent

structure Outcome where
  success : Bool
  message : String
  data : Option Json

namespace Outcome

def ok (message : String) : Outcome := ⟨true, message, none⟩

def okWith (message : String) (data : Json) : Outcome := ⟨true, message, some data⟩

def failed (message : String) : Outcome := ⟨false, message, none⟩

/-- The outcome as an object; missing data is left out. -/
def toJson (o : Outcome) : Json :=
  .object ([("success", .bool o.success), ("message", .string o.message)] ++
    o.data.toList.map fun d => ("data", d))

/-- Reads an outcome; data that is null counts as missing. -/
def ofTree? (depth : Nat) (t : Tree) : Option Outcome :=
  match t.slots? Tree.jsonNotation [["success"], ["message"], ["data"]] with
  | some [success, message, data] =>
    (success.required Tree.bool?).bind fun success =>
      (message.required Tree.string?).bind fun message =>
        (data.orElse none (Tree.option? (Tree.json? (depth - 1)))).map fun data => ⟨success, message, data⟩
  | _ => none

end Outcome

end DeviceAgent
