import DeviceAgent.Frame.Basic
import DeviceAgent.Message.Request
import DeviceAgent.Message.Response

/-!
# Clients

The client's end of a connection. A call sends one request and reads one response, unless the time for it runs
out first. What arrives and is not read stays for the next call, except that the octets of an unfinished frame
are lost with the call that waited for it.
-/

namespace DeviceAgent

/-- The state of a connection as the client sees it. -/
inductive Link where
  | up
  /-- The agent closed it. -/
  | ended
  /-- The agent closed it with octets of the client unread. -/
  | reset
deriving DecidableEq, Repr

structure Client where
  /-- Octets that arrived and are not read yet. -/
  incoming : List UInt8
  link : Link
deriving DecidableEq, Repr

namespace Client

/-- Why a call came to no response of its kind. -/
inductive Failure where
  | notConnected
  /-- The request was not sent; a broken connection when there is no reason. -/
  | notSent (reason : Option Frame.Failure)
  /-- The response was not read; a broken connection when there is no reason. -/
  | notReceived (reason : Option Frame.Failure)
  | noResponse
  | timedOut (request : String)
  | refused (message : String)
  | unexpected (request : String)
deriving DecidableEq, Repr

def reasonText : Option Frame.Failure → String
  | some failure => failure.message
  | none => "IO error"

def Failure.chain : Failure → List String
  | .notConnected => ["Failed to connect to agent"]
  | .notSent reason => ["Failed to send request", reasonText reason]
  | .notReceived reason => ["Failed to read response", reasonText reason]
  | .noResponse => ["Agent closed the connection without responding"]
  | .timedOut request => [request ++ " request timed out"]
  | .refused message => ["Agent error: " ++ message]
  | .unexpected request => ["Unexpected response to " ++ request]

/-- The largest payload that a client sends or takes. -/
def limit : Nat := Frame.defaultLimit

def connected : Client := ⟨[], .up⟩

def deliver (c : Client) (octets : List UInt8) : Client := { c with incoming := c.incoming ++ octets }

def request (c : Client) (r : Request) : Except Failure (List UInt8) :=
  match Frame.write limit r.encode with
  | .error e => .error (.notSent (some e))
  | .ok octets => if c.link = .up then .ok octets else .error (.notSent none)

inductive Reading where
  | frame (payload : List UInt8)
  /-- The connection ended before a frame began. -/
  | ended
  | broken
  | failed (reason : Frame.Failure)
  | late
deriving DecidableEq, Repr

def read (c : Client) : Reading × Client :=
  if c.link = .up && ! Frame.settled limit c.incoming then (.late, { c with incoming := [] })
  else if c.link = .reset && ! Frame.settled limit c.incoming then (.broken, { c with incoming := [] })
  else match Frame.read limit c.incoming with
    | ⟨.ok (some payload), rest⟩ => (.frame payload, { c with incoming := rest })
    | ⟨.ok none, rest⟩ => (.ended, { c with incoming := rest })
    | ⟨.error e, rest⟩ => (.failed e, { c with incoming := rest })

def receive (c : Client) (r : Request) : Except Failure Response × Client :=
  let (reading, next) := c.read
  (match reading with
    | .frame payload => match Response.decode? payload with
      | some response => .ok response
      | none => .error (.notReceived (some .malformed))
    | .ended => .error .noResponse
    | .broken => .error (.notReceived none)
    | .failed reason => .error (.notReceived (some reason))
    | .late => .error (.timedOut r.name), next)

/-- Whether a response is of the kind that a request asks for. -/
def suits : Request → Response → Bool
  | .chat _, .chat .. | .action _, .action .. | .status, .status _ | .clear, .ack _ => true
  | _, _ => false

def expect (r : Request) (response : Response) : Except Failure Response :=
  if suits r response then .ok response
  else match response with
    | .error _ message => .error (.refused message)
    | _ => .error (.unexpected r.name)

end Client

end DeviceAgent
