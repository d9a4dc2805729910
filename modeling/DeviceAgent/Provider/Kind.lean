import DeviceAgent.Json.Record

/-!
# Language model providers

Which providers there are, and how asking one can fail.
-/

namespace DeviceAgent

inductive ProviderKind where
  | none
  | openai
  | anthropic
deriving DecidableEq, Repr

namespace ProviderKind

def name : ProviderKind → String
  | .none => "none"
  | .openai => "openai"
  | .anthropic => "anthropic"

def defaultModel : ProviderKind → String
  | .anthropic => "claude-3-opus-20240229"
  | .none | .openai => "gpt-4"

def keyVariable? : ProviderKind → Option String
  | .none => Option.none
  | .openai => some "OPENAI_API_KEY"
  | .anthropic => some "ANTHROPIC_API_KEY"

def choices : List (String × ProviderKind) := [("none", .none), ("openai", .openai), ("anthropic", .anthropic)]

end ProviderKind

inductive ProviderFailure where
  | notConfigured
  | missingCredentials (provider : ProviderKind)
  | http (detail : String)
  | status (code : Nat) (body : String)
  | invalidResponse (detail : String)
  | emptyResponse
  | timeout (seconds : Nat)
deriving DecidableEq, Repr

def ProviderFailure.message : ProviderFailure → String
  | .notConfigured => "no remote provider configured"
  | .missingCredentials provider => "missing API key for " ++ provider.name
  | .http detail => "HTTP error: " ++ detail
  | .status code body => "provider returned HTTP " ++ toString code ++ ": " ++ body
  | .invalidResponse detail => "invalid response body: " ++ detail
  | .emptyResponse => "provider returned an empty reply"
  | .timeout seconds => "request timeout after " ++ toString seconds ++ " seconds"

abbrev Completion := Except ProviderFailure String

end DeviceAgent
