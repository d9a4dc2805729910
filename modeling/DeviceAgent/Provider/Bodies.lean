import DeviceAgent.Conversation.Basic
import DeviceAgent.Provider.Prompt

/-!
# Request bodies

The two shapes of a chat completion request. One gives the system prompt as the first message, the other as a
field of its own with messages that start with the user's.
-/

namespace DeviceAgent

def message (role content : String) : Json :=
  .object [("content", .string content), ("role", .string role)]

def Turn.message (t : Turn) : Json := DeviceAgent.message t.role.name t.content

/-- The turns that a request whose messages start with the user's can carry: not those of the system, and none
of the assistant in front. -/
def opening (history : List Turn) : List Turn :=
  (history.filter (·.role != .system)).dropWhile (·.role == .assistant)

/-- The request with the system prompt as first message. -/
def openaiBody (model : String) (maxTokens : Nat) (history : List Turn) (said : String) : Json :=
  .object [("max_tokens", .ofNat maxTokens),
    ("messages", .array (message "system" systemPrompt :: history.map Turn.message ++ [message "user" said])),
    ("model", .string model)]

def anthropicBody (model : String) (maxTokens : Nat) (history : List Turn) (said : String) : Json :=
  .object [("max_tokens", .ofNat maxTokens),
    ("messages", .array ((opening history).map Turn.message ++ [message "user" said])),
    ("model", .string model), ("system", .string systemPrompt)]

end DeviceAgent
