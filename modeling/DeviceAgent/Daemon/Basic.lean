import DeviceAgent.Daemon.Connection

/-!
# The daemon

A listener with any number of connections that are served side by side over one state. Each event is one step
of the listener, of one connection or of the outside; what a daemon can do are the runs of its events. A
signal ends it: the listener stops, removes its socket if the system lets it, and returns when all connections
are closed.
-/

namespace DeviceAgent

inductive ListenerPhase where
  | accepting
  /-- No connection is accepted any more, and some are still open. -/
  | draining
  | returned
deriving DecidableEq, Repr

inductive StopSignal where
  | pending
  | raised
  /-- Nobody is left who could raise it. -/
  | lost
deriving DecidableEq, Repr

structure Daemon (σ π : Type) where
  state : Agent.State σ π
  connections : List Connection
  listener : ListenerPhase
  signal : StopSignal
  /-- The socket is there. -/
  socket : Bool

inductive DaemonEvent where
  | accept
  | receive (connection : Nat) (octets : List UInt8)
  /-- A client stops sending. -/
  | finish (connection : Nat)
  /-- A client closes its connection. -/
  | leave (connection : Nat)
  /-- A client fetches all octets for it. -/
  | fetch (connection : Nat)
  /-- The serving of a connection goes one step further, if it can. -/
  | advance (connection : Nat)
  /-- Milliseconds pass. -/
  | elapse (ms : Nat)
  | fire
  | raise
  /-- The signal is lost. -/
  | lose
  /-- The clock goes on. -/
  | tick (clock : Clock)
  /-- From now on the system has a thread to spare, or none. -/
  | crowd (spare : Bool)
  /-- The listener takes note of the signal and of the connections. When it is about to remove its socket, the system
  lets it or not. -/
  | listen (removable : Bool)

namespace Daemon

variable {σ π : Type}

def started (s : Agent.State σ π) : Daemon σ π := ⟨s, [], .accepting, .pending, true⟩

def isStopping (d : Daemon σ π) : Bool := d.signal = .raised

def isIdle (d : Daemon σ π) : Bool := d.connections.all (·.isClosed)

def update (d : Daemon σ π) (i : Nat) (change : Connection → Connection) : Daemon σ π :=
  { d with connections := d.connections.modify i change }

/-- A socket that cannot be removed stays, and the listener goes on to its end nonetheless. -/
def listen (removable : Bool) (d : Daemon σ π) : Daemon σ π :=
  match d.listener with
  | .accepting =>
    if d.signal = .pending then d else { d with listener := .draining, socket := d.socket && ! removable }
  | .draining => if d.isIdle then { d with listener := .returned } else d
  | .returned => d

def advance (agent : Agent σ π) (d : Daemon σ π) (i : Nat) : Daemon σ π :=
  match d.connections[i]? with
  | none => d
  | some c =>
    let (next, state) := c.advance agent d.isStopping d.state
    { d with connections := d.connections.set i next, state := state }

def elapse (ms : Nat) (d : Daemon σ π) : Daemon σ π :=
  { d with connections := d.connections.map (·.elapse ms) }

/-- The milliseconds until the handling of some request can go on, if one has to wait. -/
def due? (d : Daemon σ π) : Option Nat :=
  ((d.connections.map (·.wait)).filter (0 < ·)).min?

def step (agent : Agent σ π) (d : Daemon σ π) : DaemonEvent → Daemon σ π
  | .accept =>
    if d.listener = .accepting then { d with connections := d.connections ++ [.opened] } else d
  | .receive i octets =>
    d.update i fun c => if c.isClosed || c.ended then c else { c with incoming := c.incoming ++ octets }
  | .finish i => d.update i fun c => { c with ended := true }
  | .leave i => d.update i fun c => { c with ended := true, gone := true }
  | .fetch i => d.update i fun c => { c with outgoing := [] }
  | .advance i => d.advance agent i
  | .elapse ms => d.elapse ms
  | .fire => { d with state := agent.fire d.state }
  | .raise => if d.signal = .pending then { d with signal := .raised } else d
  | .lose => if d.signal = .pending then { d with signal := .lost } else d
  | .tick clock => { d with state := { d.state with clock := clock } }
  | .crowd spare => { d with state := { d.state with spare := spare } }
  | .listen removable => d.listen removable

def run (agent : Agent σ π) (d : Daemon σ π) (events : List DaemonEvent) : Daemon σ π :=
  events.foldl (fun d event => d.step agent event) d

/-- Serves a connection as long as it can go on, at most `fuel` steps. -/
def serve (agent : Agent σ π) (i : Nat) : (fuel : Nat) → Daemon σ π → Daemon σ π
  | 0, d => d
  | fuel + 1, d =>
    match d.connections[i]? with
    | none => d
    | some c =>
      if c.isReady agent.policy.messageLimit d.isStopping then d.advance agent i |>.serve agent i fuel else d

/-- More steps than a connection can take with the octets that are there: each request takes a header at
least and no more than ten steps. -/
def patience (d : Daemon σ π) (i : Nat) : Nat :=
  match d.connections[i]? with
  | some c => 2 * c.incoming.length + 16
  | none => 0

/-- One round: every connection that can go on takes one step. -/
def round (agent : Agent σ π) (d : Daemon σ π) : Daemon σ π :=
  (List.range d.connections.length).foldl (fun d i => d.serve agent i 1) d

/-- Serves all connections side by side, in at most `fuel` rounds. -/
def rounds (agent : Agent σ π) : (fuel : Nat) → Daemon σ π → Daemon σ π
  | 0, d => d
  | fuel + 1, d =>
    if d.connections.any (·.isReady agent.policy.messageLimit d.isStopping) then (d.round agent).rounds agent fuel
    else d

/-- Serves all connections side by side, as long as they can go on, and lets the listener take note, whose socket can
be removed. -/
def rest (agent : Agent σ π) (d : Daemon σ π) : Daemon σ π :=
  let d := d.listen true
  (d.rounds agent ((List.range d.connections.length).foldl (fun n i => n + d.patience i) 0)).listen true

/-- Lets at most so many milliseconds pass, until the daemon is as wished, and serves all connections at each
moment at which one can go on. -/
def passUntil (agent : Agent σ π) (wished : Daemon σ π → Bool) (ms : Nat) (d : Daemon σ π) : Daemon σ π :=
  let d := d.rest agent
  if wished d then d
  else match d.due? with
    | some due =>
      if 0 < due ∧ due ≤ ms then (d.elapse due).passUntil agent wished (ms - due) else d.elapse ms
    | none => d
termination_by ms

end Daemon

end DeviceAgent
