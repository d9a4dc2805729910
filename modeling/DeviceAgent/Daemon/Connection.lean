import DeviceAgent.Agent.Basic
import DeviceAgent.Frame.Basic

/-!
# Connections

How one connection is served: a frame is taken, the request in it is handled and the response is written, and
so on until the client is done, breaks the protocol or the daemon stops. A client that breaks the protocol gets
no further octet.
-/

namespace DeviceAgent

namespace Response

/-- The response in place of one that does not fit a frame. -/
def oversize : Response := .failure "Response exceeds maximum message size"

def fitted (limit : Nat) (r : Response) : Response :=
  if limit < r.encode.length then oversize else r

def frame (limit : Nat) (r : Response) : Except Frame.Failure (List UInt8) :=
  Frame.write limit (r.fitted limit).encode

end Response

inductive Phase where
  /-- Looks whether the daemon is stopping. -/
  | checking
  /-- Waits for a frame or for the daemon to stop, and looks for the signal first. -/
  | waiting
  /-- Has seen no signal and looks for a frame next, whatever becomes of the signal meanwhile. -/
  | polling
  | serving (request : Request) (stage : Stage)
  | closed

structure Connection where
  /-- Octets of the client that are not read yet. -/
  incoming : List UInt8
  /-- The client sends no more. -/
  ended : Bool
  /-- The client reads no more. -/
  gone : Bool
  /-- Octets for the client that it has not fetched yet. -/
  outgoing : List UInt8
  phase : Phase

namespace Connection

def opened : Connection := ⟨[], false, false, [], .checking⟩

def isClosed (c : Connection) : Bool :=
  match c.phase with
  | .closed => true
  | _ => false

def wait (c : Connection) : Nat :=
  match c.phase with
  | .serving _ stage => stage.wait
  | _ => 0

def elapse (ms : Nat) (c : Connection) : Connection :=
  match c.phase with
  | .serving request stage => { c with phase := .serving request (stage.elapse ms) }
  | _ => c

@[simp] theorem wait_elapse (ms : Nat) (c : Connection) : (c.elapse ms).wait = c.wait - ms := by
  cases h : c.phase <;> simp [elapse, wait, h]

/-- Whether what is there settles the next frame. -/
def isSettled (limit : Nat) (c : Connection) : Bool :=
  c.ended || Frame.settled limit c.incoming

/-- Whether serving can go on at once. -/
def isReady (limit : Nat) (stopping : Bool) (c : Connection) : Bool :=
  match c.phase with
  | .checking => true
  | .serving _ stage => stage.wait = 0
  | .waiting => stopping || c.isSettled limit
  | .polling => true
  | .closed => false

def take (limit : Nat) (c : Connection) : Connection :=
  match Frame.read limit c.incoming with
  | ⟨.ok (some payload), rest⟩ =>
    match Request.decode? payload with
    | some request => { c with incoming := rest, phase := .serving request (.arrived request) }
    | none => { c with incoming := rest, phase := .closed }
  | ⟨_, rest⟩ => { c with incoming := rest, phase := .closed }

/-- Looks for the signal: stopping goes before reading. The octets of a frame that is not complete yet are lost
then. -/
def heed (limit : Nat) (stopping : Bool) (c : Connection) : Connection :=
  if stopping then
    { c with incoming := if c.isSettled limit then c.incoming else [], phase := .closed }
  else { c with phase := .polling }

/-- Looks for a frame. -/
def listen (limit : Nat) (c : Connection) : Connection :=
  if c.isSettled limit then c.take limit else { c with phase := .waiting }

/-- Writes a response; when the client reads no more or not even the replacement fits, the connection is given
up. -/
def write (limit : Nat) (c : Connection) (r : Response) : Connection :=
  match c.gone, r.frame limit with
  | false, .ok octets => { c with outgoing := c.outgoing ++ octets, phase := .checking }
  | _, _ => { c with phase := .closed }

variable {σ π : Type}

/-- One step of serving a connection, as far as time allows. -/
def advance (agent : Agent σ π) (stopping : Bool) (c : Connection) (s : Agent.State σ π) :
    Connection × Agent.State σ π :=
  match c.phase with
  | .checking => ({ c with phase := if stopping then .closed else .waiting }, s)
  | .waiting => (c.heed agent.policy.messageLimit stopping, s)
  | .polling => (c.listen agent.policy.messageLimit, s)
  | .serving _ (.finished response) => (c.write agent.policy.messageLimit response, s)
  | .serving request stage =>
    if 0 < stage.wait then (c, s)
    else
      let (next, s) := agent.advance s stage
      ({ c with phase := .serving request next }, s)
  | .closed => (c, s)

end Connection

end DeviceAgent
