import DeviceAgent.Json.Record

/-!
# The conversation

The log of turns that all connections share: bounded, in order of arrival, the oldest turn that is not the
system's giving way first.
-/

namespace DeviceAgent

inductive Role where
  | system
  | user
  | assistant
deriving DecidableEq, Repr

namespace Role

def name : Role → String
  | .system => "system"
  | .user => "user"
  | .assistant => "assistant"

def choices : List (String × Role) := [("system", .system), ("user", .user), ("assistant", .assistant)]

def ofTree? : Tree → Option Role := Tree.choice? Tree.jsonNotation choices

end Role

structure Turn where
  role : Role
  content : String
deriving DecidableEq, Repr

namespace Turn

def user (content : String) : Turn := ⟨.user, content⟩

def assistant (content : String) : Turn := ⟨.assistant, content⟩

def toJson (t : Turn) : Json :=
  .object [("role", .string t.role.name), ("content", .string t.content)]

def ofTree? (t : Tree) : Option Turn :=
  match t.slots? Tree.jsonNotation [["role"], ["content"]] with
  | some [role, content] =>
    (role.required Role.ofTree?).bind fun role =>
      (content.required Tree.string?).map fun content => ⟨role, content⟩
  | _ => none

end Turn

/-- A log of at most `capacity` turns. -/
structure Conversation where
  capacity : Nat
  turns : List Turn
deriving DecidableEq, Repr

namespace Conversation

/-- An empty log for a number of turns, at least one. -/
def empty (capacity : Nat) : Conversation := ⟨max capacity 1, []⟩

def defaultCapacity : Nat := 20

/-- Takes out one turn: the oldest that is not the system's, or the oldest of all. -/
def evictOne (turns : List Turn) : List Turn :=
  match turns.findIdx? fun t => t.role != .system with
  | some i => turns.eraseIdx i
  | none => turns.drop 1

def evict : Nat → List Turn → List Turn
  | 0, turns => turns
  | n + 1, turns => evict n (evictOne turns)

def makeRoom (capacity : Nat) (turns : List Turn) : List Turn :=
  evict (turns.length + 1 - capacity) turns

def push (c : Conversation) (t : Turn) : Conversation :=
  { c with turns := makeRoom c.capacity c.turns ++ [t] }

/-- Adds what the user said and the reply, in one step. -/
def appendExchange (c : Conversation) (said reply : String) : Conversation :=
  (c.push (.user said)).push (.assistant reply)

def clear (c : Conversation) : Conversation := { c with turns := [] }

end Conversation

end DeviceAgent
