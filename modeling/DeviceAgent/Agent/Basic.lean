import DeviceAgent.Action.Dispatch
import DeviceAgent.Conversation.Basic
import DeviceAgent.Intent.Embedded
import DeviceAgent.Interpreter.Basic
import DeviceAgent.Message.Request
import DeviceAgent.Message.Response
import DeviceAgent.Provider.Basic

/-!
# The agent

How a request is handled, stage by stage. Each stage reads or changes the state that all requests share in one
go, so that any interleaving of several requests is an order of their stages; handling one request alone is
going through its stages one after another.
-/

namespace DeviceAgent

def version : String := "0.4.0"

structure Policy where
  /-- Hold back a shutdown or reboot until the user confirms it. -/
  confirmDangerous : Bool
  /-- The largest payload of a frame. -/
  messageLimit : Nat
  /-- Milliseconds that a provider has for a reply. -/
  replyLimit : Nat
  /-- Seconds before a shutdown or reboot takes place. -/
  powerDelay : Nat
  /-- The model that is reported without a provider. -/
  model : String
deriving DecidableEq, Repr

structure Agent (σ π : Type) where
  backend : Backend σ
  provider : Option (Provider π)
  policy : Policy

structure Agent.State (σ π : Type) where
  conversation : Conversation
  devices : σ
  provider : π
  /-- Power actions that wait for their delay, the first to take place in front. -/
  scheduled : List PowerAction
  clock : Clock
  /-- The system has a thread to spare that waits for the delay of a power action. -/
  spare : Bool

/-- How far the handling of a request has come. -/
inductive Stage where
  | arrived (request : Request)
  /-- The provider is asked for a reply to what was said, given these turns. -/
  | consulting (said : String) (history : List Turn)
  /-- What the provider comes to is on its way and arrives in so many milliseconds. -/
  | awaiting (said : String) (completion : Completion) (wait : Nat)
  | interpreting (said : String)
  | replied (said : String) (reply : Reply) (remote : Bool)
  /-- An intent is to be carried out, which came with a reply or on its own. -/
  | acting (response : Option String) (intent : Intent)
  /-- The system report is there, if it could be read. -/
  | reporting (system : Option Snapshot)
  | finished (response : Response)

/-- The number of stages that may still follow. -/
def Stage.remaining : Stage → Nat
  | .arrived _ => 6
  | .consulting .. => 5
  | .awaiting .. => 4
  | .interpreting _ => 3
  | .replied .. => 2
  | .acting .. => 1
  | .reporting _ => 1
  | .finished _ => 0

/-- The milliseconds before the next stage can follow. -/
def Stage.wait : Stage → Nat
  | .awaiting _ _ wait => wait
  | _ => 0

def Stage.elapse (ms : Nat) : Stage → Stage
  | .awaiting said completion wait => .awaiting said completion (wait - ms)
  | stage => stage

@[simp] theorem Stage.wait_elapse (ms : Nat) (stage : Stage) : (stage.elapse ms).wait = stage.wait - ms := by
  cases stage <;> simp [Stage.elapse, Stage.wait]

/-- The response of a stage with none to follow. -/
def Stage.response : (stage : Stage) → stage.remaining = 0 → Response
  | .finished response, _ => response

namespace Agent

variable {σ π : Type}

def confirmation : String := "confirm"

/-- Whether an intent of the provider waits for the user to confirm. -/
def isHeld (agent : Agent σ π) (intent : Intent) (said : String) : Bool :=
  agent.policy.confirmDangerous && intent.isDangerous && ! Text.contains (Text.lowered said) confirmation

def heldOutcome (intent : Intent) : Outcome :=
  .failed ("Confirmation required: say \"confirm " ++ intent.name ++ "\" to proceed")

def invalidAction : Response := .failure "Invalid action: expected an object with a name"

def conclude (response : Option String) (outcome : Outcome) : Response :=
  match response with
  | some text => .chat .ok text (some outcome)
  | none => .action .ok outcome

def providerKind (agent : Agent σ π) : ProviderKind :=
  match agent.provider with
  | some provider => provider.kind
  | none => .none

def model (agent : Agent σ π) : String :=
  match agent.provider with
  | some provider => provider.model
  | none => agent.policy.model

def report (agent : Agent σ π) (s : State σ π) (system : Option Snapshot) : StatusReport where
  verdict := .ok
  running := true
  aiConfigured := agent.provider.isSome
  provider := agent.providerKind.name
  model := agent.model
  historyLen := s.conversation.turns.length
  uptimeSecs := s.clock.uptimeSecs
  version := version
  system := system

def start (agent : Agent σ π) (s : State σ π) : Request → Stage × State σ π
  | .chat said =>
    if agent.provider.isSome then (.consulting said s.conversation.turns, s) else (.interpreting said, s)
  | .action value =>
    match Intent.ofJson? value with
    | some intent => (.acting none intent, s)
    | none => (.finished invalidAction, s)
  | .status =>
    let (info, devices) := agent.backend.perform .systemInfo s.devices
    (.reporting (info.toOption.map Snapshot.ofInfo), { s with devices := devices })
  | .clear => (.finished (.ack .ok), { s with conversation := s.conversation.clear })

def consult (agent : Agent σ π) (s : State σ π) (said : String) (history : List Turn) : Stage × State σ π :=
  match agent.provider with
  | none => (.interpreting said, s)
  | some provider =>
    let (completion, next) := provider.within agent.policy.replyLimit history said s.provider
    (.awaiting said completion (provider.wait agent.policy.replyLimit history said s.provider),
      { s with provider := next })

/-- The stage that follows what the provider came to: whatever its failure is, the interpreter is asked
instead. -/
def arrive (said : String) : Completion → Stage
  | .ok text => .replied said ⟨text, embeddedIntent? text⟩ true
  | .error _ => .interpreting said

def interpret (agent : Agent σ π) (s : State σ π) (said : String) : Stage × State σ π :=
  let (reply, devices) :=
    Interpreter.interpret agent.backend agent.policy.confirmDangerous s.clock said s.devices
  (.replied said reply false, { s with devices := devices })

/-- Logs an exchange, and goes on with its intent unless that is held. -/
def log (agent : Agent σ π) (s : State σ π) (said : String) (reply : Reply) (remote : Bool) :
    Stage × State σ π :=
  let s := { s with conversation := s.conversation.appendExchange said reply.text }
  match reply.intent with
  | none => (.finished (.chat .ok reply.text none), s)
  | some intent =>
    if remote && agent.isHeld intent said then
      (.finished (conclude (some reply.text) (heldOutcome intent)), s)
    else (.acting (some reply.text) intent, s)

def act (agent : Agent σ π) (s : State σ π) (response : Option String) (intent : Intent) : Stage × State σ π :=
  let e := intent.execute agent.backend agent.policy.powerDelay s.spare s.devices
  (.finished (conclude response e.outcome),
    { s with devices := e.device, scheduled := s.scheduled ++ e.scheduled.toList })

/-- Goes from one stage to the next, however long that takes. -/
def advance (agent : Agent σ π) (s : State σ π) : Stage → Stage × State σ π
  | .arrived request => agent.start s request
  | .consulting said history => agent.consult s said history
  | .awaiting said completion _ => (arrive said completion, s)
  | .interpreting said => agent.interpret s said
  | .replied said reply remote => agent.log s said reply remote
  | .acting response intent => agent.act s response intent
  | .reporting system => (.finished (.status (agent.report s system)), s)
  | .finished response => (.finished response, s)

theorem remaining_advance (agent : Agent σ π) (s : State σ π) (stage : Stage) :
    (agent.advance s stage).1.remaining ≤ stage.remaining - 1 := by
  cases stage with
  | arrived request =>
    cases request <;> simp only [advance, start] <;> repeat' split
    all_goals simp [Stage.remaining]
  | consulting said history =>
    simp only [advance, consult]
    repeat' split
    all_goals simp [Stage.remaining]
  | awaiting said completion wait => cases completion <;> simp [advance, arrive, Stage.remaining]
  | interpreting said => simp [advance, interpret, Stage.remaining]
  | replied said reply remote =>
    simp only [advance, log]
    repeat' split
    all_goals simp [Stage.remaining]
  | acting response intent => simp [advance, act, Stage.remaining]
  | reporting system => simp [advance, Stage.remaining]
  | finished response => simp [advance, Stage.remaining]

def conduct (agent : Agent σ π) :
    (n : Nat) → (stage : Stage) → stage.remaining ≤ n → State σ π → Response × State σ π
  | 0, stage, h, s => (Stage.response stage (Nat.le_zero.mp h), s)
  | n + 1, stage, h, s =>
    conduct agent n (agent.advance s stage).1
      (Nat.le_trans (agent.remaining_advance s stage) (Nat.sub_le_of_le_add h)) (agent.advance s stage).2

theorem conduct_finished (agent : Agent σ π) (n : Nat) (response : Response)
    (h : (Stage.finished response).remaining ≤ n) (s : State σ π) :
    agent.conduct n (.finished response) h s = (response, s) := by
  induction n with
  | zero => rfl
  | succ n ih => exact ih (Nat.zero_le n)

theorem conduct_eq_conduct (agent : Agent σ π) {n m : Nat} {stage : Stage} (hn : stage.remaining ≤ n)
    (hm : stage.remaining ≤ m) (s : State σ π) :
    agent.conduct n stage hn s = agent.conduct m stage hm s := by
  induction n generalizing m stage s with
  | zero =>
    cases stage with
    | finished response => rw [conduct_finished, conduct_finished]
    | _ => simp [Stage.remaining] at hn
  | succ n ih =>
    cases m with
    | zero =>
      cases stage with
      | finished response => rw [conduct_finished, conduct_finished]
      | _ => simp [Stage.remaining] at hm
    | succ m => exact ih _ _ _

def complete (agent : Agent σ π) (stage : Stage) (s : State σ π) : Response × State σ π :=
  agent.conduct stage.remaining stage (Nat.le_refl _) s

@[simp] theorem complete_finished (agent : Agent σ π) (response : Response) (s : State σ π) :
    agent.complete (.finished response) s = (response, s) := rfl

theorem complete_eq_complete_advance (agent : Agent σ π) (stage : Stage) (s : State σ π) :
    agent.complete stage s = agent.complete (agent.advance s stage).1 (agent.advance s stage).2 := by
  rw [complete, agent.conduct_eq_conduct _ (Nat.le_succ stage.remaining)]
  show agent.conduct stage.remaining (agent.advance s stage).1 _ (agent.advance s stage).2 = _
  exact agent.conduct_eq_conduct _ _ _

def handle (agent : Agent σ π) (request : Request) (s : State σ π) : Response × State σ π :=
  agent.complete (.arrived request) s

/-- Lets the first power action that waits take place. -/
def fire (agent : Agent σ π) (s : State σ π) : State σ π :=
  match s.scheduled with
  | [] => s
  | action :: rest =>
    { s with devices := (agent.backend.perform (.power action.event) s.devices).2, scheduled := rest }

/-- Lets every power action that waits take place. -/
def fireAll (agent : Agent σ π) (s : State σ π) : State σ π :=
  s.scheduled.foldl (fun s _ => agent.fire s) s

end Agent

end DeviceAgent
