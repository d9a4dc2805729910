import DeviceAgent.Device.Basic
import DeviceAgent.Message.Snapshot
import DeviceAgent.Provider.Kind
import DeviceAgent.Frame.Basic
import DeviceAgent.Conversation.Basic

/-!
# The settings file

What a settings file can say; every key may be left out. The same record is read from either notation.
-/

namespace DeviceAgent

structure Endpoints where
  openai : String
  anthropic : String
deriving DecidableEq, Repr

namespace Endpoints

def standard : Endpoints :=
  ⟨"https://api.openai.com/v1/chat/completions", "https://api.anthropic.com/v1/messages"⟩

def toJson (e : Endpoints) : Json :=
  .object [("openai", .string e.openai), ("anthropic", .string e.anthropic)]

def ofTree? (n : Tree.Notation) (t : Tree) : Option Endpoints :=
  match t.slots? n [["openai"], ["anthropic"]] with
  | some [openai, anthropic] => do
    let openai ← openai.orElse standard.openai Tree.string?
    let anthropic ← anthropic.orElse standard.anthropic Tree.string?
    return ⟨openai, anthropic⟩
  | _ => none

end Endpoints

def runtimeDirectory : String := "/run/aios"

def settingsDirectory : String := "/etc/aios"

/-- A file below a directory; an absolute name stands for itself. -/
def joinPath (directory name : String) : String :=
  if name.toList.head? = some '/' then name else directory ++ "/" ++ name

def serviceSocket (service : String) : String := joinPath runtimeDirectory (service ++ ".sock")

def defaultSocket : String := serviceSocket "agent"

def defaultSettingsPath : String := joinPath settingsDirectory "agent.toml"

structure SettingsFile where
  provider : Option ProviderKind
  model : Option String
  confirmDangerous : Bool
  socketPath : String
  historyCapacity : Nat
  maxMessageSize : Nat
  requestTimeoutSecs : Nat
  maxTokens : Nat
  powerDelaySecs : Nat
  devices : DeviceKind
  logLevel : String
  logFile : Option String
  endpoints : Endpoints
deriving DecidableEq, Repr

namespace SettingsFile

/-- What holds where a file says nothing. -/
def standard : SettingsFile where
  provider := none
  model := none
  confirmDangerous := true
  socketPath := defaultSocket
  historyCapacity := Conversation.defaultCapacity
  maxMessageSize := Frame.defaultLimit
  requestTimeoutSecs := 30
  maxTokens := 1024
  powerDelaySecs := 5
  devices := .linux
  logLevel := "info"
  logFile := none
  endpoints := .standard

def toJson (f : SettingsFile) : Json :=
  .object [("provider", .ofOption (fun p => .string p.name) f.provider), ("model", .ofOption .string f.model),
    ("confirm_dangerous", .bool f.confirmDangerous), ("socket_path", .string f.socketPath),
    ("history_capacity", .ofNat f.historyCapacity), ("max_message_size", .ofNat f.maxMessageSize),
    ("request_timeout_secs", .ofNat f.requestTimeoutSecs), ("max_tokens", .ofNat f.maxTokens),
    ("power_action_delay_secs", .ofNat f.powerDelaySecs), ("hal", .string f.devices.name),
    ("log_level", .string f.logLevel), ("log_file", .ofOption .string f.logFile),
    ("endpoints", f.endpoints.toJson)]

def fields : List (List String) :=
  [["provider"], ["model"], ["confirm_dangerous"], ["socket_path"], ["history_capacity"],
    ["max_message_size"], ["request_timeout_secs"], ["max_tokens"], ["power_action_delay_secs"], ["hal"],
    ["log_level"], ["log_file"], ["endpoints"]]

def ofTree? (n : Tree.Notation) (t : Tree) : Option SettingsFile :=
  match t.slots? n fields with
  | some [provider, model, confirm, socket, history, size, timeout, tokens, delay, devices, level, file,
      endpoints] => do
    let provider ← provider.orElse none (Tree.option? (Tree.choice? n ProviderKind.choices))
    let model ← model.orElse none (Tree.option? Tree.string?)
    let confirm ← confirm.orElse standard.confirmDangerous Tree.bool?
    let socket ← socket.orElse standard.socketPath Tree.string?
    let history ← history.orElse standard.historyCapacity (Tree.natUpTo? maxWord64)
    let size ← size.orElse standard.maxMessageSize (Tree.natUpTo? maxWord64)
    let timeout ← timeout.orElse standard.requestTimeoutSecs (Tree.natUpTo? maxWord64)
    let tokens ← tokens.orElse standard.maxTokens (Tree.natUpTo? maxWord32)
    let delay ← delay.orElse standard.powerDelaySecs (Tree.natUpTo? maxWord64)
    let devices ← devices.orElse standard.devices (Tree.choice? n DeviceKind.choices)
    let level ← level.orElse standard.logLevel Tree.string?
    let file ← file.orElse none (Tree.option? Tree.string?)
    let endpoints ← endpoints.orElse standard.endpoints (Endpoints.ofTree? n)
    return ⟨provider, model, confirm, socket, history, size, timeout, tokens, delay, devices, level, file,
      endpoints⟩
  | _ => none

end SettingsFile

end DeviceAgent
