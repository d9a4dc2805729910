import DeviceAgent.Provider.Http

/-!
# Asking for a reply

A provider gives a reply or fails, and takes its time for either; who asks sets a deadline. One is asked over a
network, another replies from a script.
-/

namespace DeviceAgent

/-- A provider whose state is of type `π`, asked with the turns so far and what was said. -/
structure Provider (π : Type) where
  kind : ProviderKind
  model : String
  /-- What a question comes to that is waited for, and the state then. -/
  complete : (history : List Turn) → (said : String) → π → Completion × π
  /-- The milliseconds until a question asked now comes to that. -/
  delay : (history : List Turn) → (said : String) → π → Nat
  /-- The state that is left behind by a question that is given up before. -/
  abandon : (history : List Turn) → (said : String) → π → π

namespace Provider

variable {π : Type}

/-- Asks under a deadline in milliseconds, at which a question is given up. -/
def within (p : Provider π) (limit : Nat) (history : List Turn) (said : String) (s : π) : Completion × π :=
  if limit < p.delay history said s then (.error (.timeout (limit / 1000)), p.abandon history said s)
  else p.complete history said s

/-- The milliseconds until a question under a deadline comes to something. -/
def wait (p : Provider π) (limit : Nat) (history : List Turn) (said : String) (s : π) : Nat :=
  min limit (p.delay history said s)

theorem within_of_late {p : Provider π} {limit : Nat} {history : List Turn} {said : String} {s : π}
    (h : limit < p.delay history said s) :
    p.within limit history said s = (.error (.timeout (limit / 1000)), p.abandon history said s) := if_pos h

theorem within_of_timely {p : Provider π} {limit : Nat} {history : List Turn} {said : String} {s : π}
    (h : p.delay history said s ≤ limit) : p.within limit history said s = p.complete history said s :=
  if_neg (Nat.not_lt.mpr h)

end Provider

structure Script where
  /-- The replies to come; the last one repeats. -/
  replies : List Completion
  /-- Milliseconds before each reply. -/
  delay : Nat
  /-- How many turns each call so far was given, and what was said. -/
  calls : List (Nat × String)

namespace Script

def note (s : Script) (history : List Turn) (said : String) : Script :=
  { s with calls := s.calls ++ [(history.length, said)] }

def next (s : Script) : Completion × Script :=
  match s.replies with
  | [] => (.error .emptyResponse, s)
  | [r] => (r, s)
  | r :: rest => (r, { s with replies := rest })

/-- Notes a call and hands out a reply. -/
def reply (history : List Turn) (said : String) (s : Script) : Completion × Script :=
  (s.note history said).next

/-- A call is noted at once, and a reply handed out when its time has come. -/
def provider : Provider Script :=
  ⟨.openai, "fake", reply, fun _ _ s => s.delay, fun history said s => s.note history said⟩

end Script

/-- The provider that is asked over a network, whose exchanges end at the time limit of its own. A request is on its
way when it is given up. -/
def HttpProvider.provider (p : HttpProvider) : Provider Network where
  kind := p.kind
  model := p.model
  complete history said n := p.complete n history said
  delay _ _ n := n.latency
  abandon history said n := (p.complete n history said).2

end DeviceAgent
