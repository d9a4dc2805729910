import DeviceAgent.Intent.Basic
import DeviceAgent.Json.Printer
import DeviceAgent.Json.Reader

/-!
# Requests

What a client asks of the agent. A request is an object with its kind under `cmd`, or an array that starts
with the kind.
-/

namespace DeviceAgent

inductive Request where
  | chat (text : String)
  /-- An action, not yet known to be an intent. -/
  | action (value : Json)
  | status
  | clear

namespace Request

def name : Request → String
  | .chat _ => "chat"
  | .action _ => "action"
  | .status => "status"
  | .clear => "clear"

def ofIntent (intent : Intent) : Request := .action intent.toJson

def toJson : Request → Json
  | .chat text => .object [("cmd", .string "chat"), ("text", .string text)]
  | .action value => .object [("cmd", .string "action"), ("action", value)]
  | .status => .object [("cmd", .string "status")]
  | .clear => .object [("cmd", .string "clear")]

def encode (r : Request) : List UInt8 := r.toJson.print

/-- The kind of a request and the written form of the rest. -/
def split? : Tree → Option (String × Tree)
  | .object members =>
    match Tree.named ["cmd"] members with
    | [t] => t.string?.map fun kind => (kind, .object (members.filter fun (k, _) => k != some "cmd"))
    | _ => none
  | .array (t :: rest) => t.string?.map fun kind => (kind, .array rest)
  | _ => none

/-- Reads a request of a known kind from the rest of its written form. -/
def ofRest? (kind : String) (rest : Tree) : Option Request :=
  match kind with
  | "chat" =>
    match rest.slots? Tree.jsonNotation [["text"]] with
    | some [text] => (text.required Tree.string?).map .chat
    | _ => none
  | "action" =>
    match rest.slots? Tree.jsonNotation [["action", "intent"]] with
    | some [value] => (value.required (Tree.json? (Tree.depthLimit - 1))).map .action
    | _ => none
  | "status" => (rest.slots? Tree.jsonNotation []).map fun _ => .status
  | "clear" => (rest.slots? Tree.jsonNotation []).map fun _ => .clear
  | _ => none

/-- Reads a request from its written form, every leaf of which has to have content. -/
def ofTree? (t : Tree) : Option Request :=
  (t.value? Tree.depthLimit).bind fun _ => (split? t).bind fun (kind, rest) => ofRest? kind rest

def decode? (bs : List UInt8) : Option Request :=
  (Tree.read? Tree.depthLimit bs).bind ofTree?

end Request

end DeviceAgent
