import DeviceAgent.Intent.Basic
import DeviceAgent.Json.Printer
import DeviceAgent.Json.Reader
import DeviceAgent.Message.Snapshot

/-!
# Responses

What the agent answers. A response carries no tag; it is read as the first of chat, action, status, error and
acknowledgement whose fields are all there.
-/

namespace DeviceAgent

inductive Verdict where
  | ok
  | error
deriving DecidableEq, Repr

namespace Verdict

def name : Verdict → String
  | .ok => "ok"
  | .error => "error"

def choices : List (String × Verdict) := [("ok", .ok), ("error", .error)]

def ofTree? : Tree → Option Verdict := Tree.choice? Tree.jsonNotation choices

end Verdict

structure StatusReport where
  verdict : Verdict
  running : Bool
  aiConfigured : Bool
  provider : String
  model : String
  historyLen : Nat
  uptimeSecs : Nat
  version : String
  system : Option Snapshot
deriving DecidableEq, Repr

inductive Response where
  | chat (verdict : Verdict) (response : String) (outcome : Option Outcome)
  | action (verdict : Verdict) (outcome : Outcome)
  | status (report : StatusReport)
  | error (verdict : Verdict) (message : String)
  | ack (verdict : Verdict)

namespace Response

def kind : Response → String
  | .chat .. => "Chat"
  | .action .. => "Action"
  | .status .. => "Status"
  | .error .. => "Error"
  | .ack .. => "Ack"

def verdict : Response → Verdict
  | .chat v _ _ => v
  | .action v _ => v
  | .status report => report.verdict
  | .error v _ => v
  | .ack v => v

def failure (message : String) : Response := .error .error message

def verdictMember (v : Verdict) : String × Json := ("status", .string v.name)

def reportJson (r : StatusReport) : Json :=
  .object [verdictMember r.verdict, ("running", .bool r.running), ("ai_configured", .bool r.aiConfigured),
    ("provider", .string r.provider), ("model", .string r.model), ("history_len", .ofNat r.historyLen),
    ("uptime_secs", .ofNat r.uptimeSecs), ("version", .string r.version),
    ("system", .ofOption Snapshot.toJson r.system)]

def toJson : Response → Json
  | .chat v response outcome =>
    .object ([verdictMember v, ("response", .string response)] ++
      outcome.toList.map fun o => ("action_result", o.toJson))
  | .action v outcome => .object [verdictMember v, ("result", outcome.toJson)]
  | .status report => reportJson report
  | .error v message => .object [verdictMember v, ("message", .string message)]
  | .ack v => .object [verdictMember v]

def encode (r : Response) : List UInt8 := r.toJson.print

/-- Reads an outcome that is a field of a response. -/
def outcome? : Tree → Option Outcome := Outcome.ofTree? (Tree.depthLimit - 1)

def chat? (t : Tree) : Option Response :=
  match t.slots? Tree.jsonNotation [["status"], ["response"], ["action_result"]] with
  | some [v, response, outcome] => do
    let v ← v.required Verdict.ofTree?
    let response ← response.required Tree.string?
    let outcome ← outcome.orElse none (Tree.option? outcome?)
    return .chat v response outcome
  | _ => none

def action? (t : Tree) : Option Response :=
  match t.slots? Tree.jsonNotation [["status"], ["result"]] with
  | some [v, outcome] => do
    let v ← v.required Verdict.ofTree?
    let outcome ← outcome.required outcome?
    return .action v outcome
  | _ => none

def status? (t : Tree) : Option Response :=
  match t.slots? Tree.jsonNotation
      [["status"], ["running"], ["ai_configured"], ["provider"], ["model"], ["history_len"], ["uptime_secs"],
        ["version"], ["system"]] with
  | some [v, running, configured, provider, model, historyLen, uptime, version, system] => do
    let v ← v.required Verdict.ofTree?
    let running ← running.required Tree.bool?
    let configured ← configured.required Tree.bool?
    let provider ← provider.required Tree.string?
    let model ← model.required Tree.string?
    let historyLen ← historyLen.required (Tree.natUpTo? maxWord64)
    let uptime ← uptime.required (Tree.natUpTo? maxWord64)
    let version ← version.required Tree.string?
    let system ← system.nullable Snapshot.ofTree?
    return .status ⟨v, running, configured, provider, model, historyLen, uptime, version, system⟩
  | _ => none

def error? (t : Tree) : Option Response :=
  match t.slots? Tree.jsonNotation [["status"], ["message"]] with
  | some [v, message] => do
    let v ← v.required Verdict.ofTree?
    let message ← message.required Tree.string?
    return .error v message
  | _ => none

def ack? (t : Tree) : Option Response :=
  match t.slots? Tree.jsonNotation [["status"]] with
  | some [v] => (v.required Verdict.ofTree?).map .ack
  | _ => none

/-- Reads a response from its written form, every leaf of which has to have content. -/
def ofTree? (t : Tree) : Option Response :=
  (t.value? Tree.depthLimit).bind fun _ =>
    [chat?, action?, status?, error?, ack?].findSome? fun read => read t

def decode? (bs : List UInt8) : Option Response :=
  (Tree.read? Tree.depthLimit bs).bind ofTree?

end Response

end DeviceAgent
