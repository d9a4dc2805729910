import DeviceAgent.Json.Reader
import DeviceAgent.Provider.Bodies
import DeviceAgent.Provider.Kind
import DeviceAgent.Text.Blank

/-!
# Providers over HTTP

How a request to a provider is made up, and what its answer comes to. A network hands out what becomes of each
request.
-/

namespace DeviceAgent

structure HttpProvider where
  kind : ProviderKind
  endpoint : String
  key : String
  model : String
  maxTokens : Nat
  /-- Whole seconds until an answer is given up. -/
  timeoutSecs : Nat
deriving DecidableEq, Repr

structure HttpRequest where
  endpoint : String
  headers : List (String × String)
  body : Json

/-- What becomes of a request within the time limit. -/
inductive Exchange where
  /-- There is no answer: the request arrived or did not, and the time ran out or the connection failed. -/
  | unanswered (arrived late : Bool)
  /-- An answer, whose body may break off. -/
  | answered (status : Nat) (body : List UInt8) (complete : Bool)
deriving DecidableEq, Repr

namespace Exchange

def refused : Exchange := .unanswered false false

/-- Whether the request arrived. -/
def arrived : Exchange → Bool
  | .unanswered arrived _ => arrived
  | .answered .. => true

end Exchange

namespace HttpProvider

def make (kind : ProviderKind) (endpoint key model : String) (maxTokens timeoutSecs : Nat) :
    Except ProviderFailure HttpProvider :=
  if kind = .none then .error .notConfigured
  else if key.isEmpty then .error (.missingCredentials kind)
  else .ok ⟨kind, endpoint, key, model, maxTokens, timeoutSecs⟩

/-- A key that can be sent as a header: no control characters but tabs. -/
def isHeaderText (s : String) : Bool :=
  s.toList.all fun c => c == '\t' || (0x20 ≤ c.toNat && c.toNat != 0x7F)

def requestFailed : ProviderFailure := .http "Request failed"

/-- The request that asks for a reply, if one can be built. -/
def request (p : HttpProvider) (history : List Turn) (said : String) : Except ProviderFailure HttpRequest :=
  let sendable := fun (r : HttpRequest) => if isHeaderText p.key then .ok r else .error requestFailed
  match p.kind with
  | .none => .error .notConfigured
  | .openai => sendable ⟨p.endpoint,
      [("authorization", "Bearer " ++ p.key), ("content-type", "application/json")],
      openaiBody p.model p.maxTokens history said⟩
  | .anthropic => sendable ⟨p.endpoint,
      [("x-api-key", p.key), ("anthropic-version", "2023-06-01"), ("content-type", "application/json")],
      anthropicBody p.model p.maxTokens history said⟩

/-- The reply text in an answer, and where it was looked for. -/
def content? (kind : ProviderKind) (answer : Json) : Except ProviderFailure String :=
  let (found, place) := match kind with
    | .anthropic => ((((answer.field? "content").bind (Json.item? 0)).bind (Json.field? "text")),
        "content[0].text")
    | _ => (((((answer.field? "choices").bind (Json.item? 0)).bind (Json.field? "message")).bind
        (Json.field? "content")), "choices[0].message.content")
  match found.bind Json.string? with
  | some text => .ok text
  | none => .error (.invalidResponse ("missing " ++ place))

def excerptLength : Nat := 200

def classify (p : HttpProvider) : Exchange → Completion
  | .unanswered _ late => .error (if late then .timeout p.timeoutSecs else requestFailed)
  | .answered status body complete =>
    if status < 200 || 300 ≤ status then
      .error (.status status
        (if complete then String.ofList ((Text.lossy body).toList.take excerptLength) else ""))
    else match if complete then Json.read? body else none with
      | none => .error (.invalidResponse "Failed to parse response")
      | some answer => (content? p.kind answer).bind fun text =>
        if Text.isAllBlank text then .error .emptyResponse else .ok text

end HttpProvider

/-- What becomes of the requests to come, in order and the last one repeated, and the requests so far. A
network without any refuses every connection. -/
structure Network where
  exchanges : List Exchange
  sent : List HttpRequest
  /-- The milliseconds that a request takes. -/
  latency : Nat

namespace Network

/-- Nothing answers, and that is known after so many milliseconds. -/
def down (latency : Nat) : Network := ⟨[], [], latency⟩

/-- Sends a request, which counts as sent when it arrives. -/
def send (n : Network) (r : HttpRequest) : Exchange × Network :=
  let note := fun (e : Exchange) => if e.arrived then n.sent ++ [r] else n.sent
  match n.exchanges with
  | [] => (.refused, n)
  | [e] => (e, { n with sent := note e })
  | e :: rest => (e, { n with exchanges := rest, sent := note e })

end Network

def HttpProvider.complete (p : HttpProvider) (n : Network) (history : List Turn) (said : String) :
    Completion × Network :=
  match p.request history said with
  | .error e => (.error e, n)
  | .ok r =>
    let (exchange, next) := n.send r
    (p.classify exchange, next)

end DeviceAgent
