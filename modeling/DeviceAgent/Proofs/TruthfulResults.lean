import DeviceAgent.Proofs.Fulfilment

/-!
# Outcomes tell the truth

On a virtual machine a request that comes with no outcome, or with one that failed, leaves the devices and the power
actions to come as they are. One that succeeded makes the one change that its intent names and its message states, so
the intents that succeeded bring the machine from what it was at first to what it is.
-/

namespace DeviceAgent

variable {σ π : Type}

/-! ## One request -/

/-- From one state to the next, at most one thing was looked up. -/
def Backend.LooksUp (backend : Backend σ) (s next : σ) : Prop :=
  next = s ∨ ∃ c : Command, c.IsReading ∧ next = (backend.perform c s).2

/-- The interpreter looks up at most one thing. -/
lemma Interpreter.looksUp_interpret (backend : Backend σ) (confirm : Bool) (clock : Clock) (said : String) (s : σ) :
    backend.LooksUp s (interpret backend confirm clock said s).2 := by
  have hlevel {c : Command} (hc : c.IsReading) (u : Utterance) (dial : Dial) (read : σ → Except DeviceError Nat × σ)
      (hread : (read s).2 = (backend.perform c s).2) : backend.LooksUp s (level u dial read s).2 := by
    unfold level
    split
    · exact Or.inl rfl
    · exact Or.inr ⟨c, hc, hread⟩
  have ha := answers_interpret backend confirm clock said s
  generalize interpret backend confirm clock said s = answer at ha ⊢
  cases ha with
  | brightness => exact hlevel (c := .brightness) trivial _ _ _ rfl
  | volume => exact hlevel (c := .volume) trivial _ _ _ rfl
  | battery => exact Or.inr ⟨.battery, trivial, rfl⟩
  | _ => exact Or.inl rfl

lemma VirtualMachine.rested_of_looksUp {m next : VirtualMachine} (h : VirtualMachine.backend.LooksUp m next) :
    next.rested = m.rested := by
  obtain rfl | ⟨c, hc, rfl⟩ := h
  · rfl
  · exact rested_perform_reading hc m

namespace Agent

/-- The intent in the interpreter's reply. -/
def interpreted? (agent : Agent σ π) (s : Agent.State σ π) (said : String) : Option Intent :=
  (Interpreter.interpret agent.backend agent.policy.confirmDangerous s.clock said s.devices).1.intent

/-- The intent in the provider's reply, or else in the interpreter's. -/
def completed? (agent : Agent σ π) (s : Agent.State σ π) (said : String) : Completion → Option Intent
  | .ok text => embeddedIntent? text
  | .error _ => agent.interpreted? s said

/-- The intent in what the provider replies, if there is one, given these turns. -/
def consulted? (agent : Agent σ π) (s : Agent.State σ π) (said : String) (history : List Turn) : Option Intent :=
  match agent.provider with
  | none => agent.interpreted? s said
  | some provider =>
    agent.completed? s said (provider.within agent.policy.replyLimit history said s.provider).1

/-- The intent that a request brings with it. -/
def intent? (agent : Agent σ π) (s : Agent.State σ π) : Request → Option Intent
  | .chat said => agent.consulted? s said s.conversation.turns
  | .action value => Intent.ofJson? value
  | .status | .clear => none

/-- The intent that is carried out from a stage on, unless it is held back. -/
def ahead? (agent : Agent σ π) (s : Agent.State σ π) : Stage → Option Intent
  | .arrived request => agent.intent? s request
  | .consulting said history => agent.consulted? s said history
  | .awaiting said completion _ => agent.completed? s said completion
  | .interpreting said => agent.interpreted? s said
  | .replied _ reply _ => reply.intent
  | .acting _ intent => some intent
  | .reporting _ | .finished _ => none

/-- What holds of every stage and is kept by going on holds when the handling is finished. -/
lemma complete_induction (agent : Agent σ π) {P : Stage → Agent.State σ π → Prop}
    (hstep : ∀ stage s, P stage s → P (agent.advance s stage).1 (agent.advance s stage).2) {stage : Stage}
    {s : Agent.State σ π} (h : P stage s) :
    P (.finished (agent.complete stage s).1) (agent.complete stage s).2 := by
  have hconduct : ∀ n (stage : Stage) (hn : stage.remaining ≤ n) (s : Agent.State σ π), P stage s →
      P (.finished (agent.conduct n stage hn s).1) (agent.conduct n stage hn s).2 := by
    intro n
    induction n with
    | zero =>
      intro stage hn s h
      cases stage with
      | finished response => exact h
      | _ => simp [Stage.remaining] at hn
    | succ n ih => exact fun stage hn s h => ih _ _ _ (hstep stage s h)
  exact hconduct _ stage (Nat.le_refl _) s h

end Agent

def Response.carried? : Response → Option Outcome
  | .chat _ _ outcome => outcome
  | .action _ outcome => some outcome
  | _ => none

/-- A response is true of the intent that came with its request: it has no outcome and nothing changed, or its outcome
is true of that intent. -/
def Response.IsTrue (r : Response) (intent? : Option Intent) (before after : Effects) : Prop :=
  match r.carried? with
  | none => after = before
  | some o => ∃ intent, intent? = some intent ∧ o.IsTrue intent before after

namespace Agent

/-- The agent of a virtual machine. -/
def ofVirtual (provider : Option (Provider π)) (policy : Policy) : Agent VirtualMachine π :=
  ⟨VirtualMachine.backend, provider, policy⟩

/-- On the way from a state to the response nothing has changed and the same intent is ahead; the response is true. -/
def StaysTrue (agent : Agent VirtualMachine π) (before : Effects) (intent? : Option Intent) (stage : Stage)
    (s : Agent.State VirtualMachine π) : Prop :=
  match stage with
  | .finished response => response.IsTrue intent? before s.effects
  | stage => s.effects = before ∧ agent.ahead? s stage = intent?

section

variable {provider : Option (Provider π)} {policy : Policy} {before : Effects} {intent? : Option Intent}
  {s : Agent.State VirtualMachine π}

lemma staysTrue_start {request : Request}
    (h : (ofVirtual provider policy).StaysTrue before intent? (.arrived request) s) :
    let next := (ofVirtual provider policy).start s request
    (ofVirtual provider policy).StaysTrue before intent? next.1 next.2 := by
  obtain ⟨rfl, rfl⟩ := h
  cases request with
  | chat said =>
    simp only [start]
    cases provider with
    | none => exact ⟨rfl, rfl⟩
    | some provider => exact ⟨rfl, rfl⟩
  | action value =>
    simp only [start]
    cases hi : Intent.ofJson? value with
    | some intent => exact ⟨rfl, hi.symm⟩
    | none => exact rfl
  | status =>
    have hr : (VirtualMachine.perform .systemInfo s.devices).2.rested = s.devices.rested :=
      VirtualMachine.rested_perform_reading (c := .systemInfo) trivial s.devices
    exact ⟨congrArg (Effects.mk · s.scheduled) hr, rfl⟩
  | clear => exact rfl

lemma staysTrue_interpret {said : String}
    (h : (ofVirtual provider policy).StaysTrue before intent? (.interpreting said) s) :
    let next := (ofVirtual provider policy).interpret s said
    (ofVirtual provider policy).StaysTrue before intent? next.1 next.2 := by
  obtain ⟨rfl, rfl⟩ := h
  have hlooks := Interpreter.looksUp_interpret VirtualMachine.backend policy.confirmDangerous s.clock said s.devices
  exact ⟨congrArg (Effects.mk · s.scheduled) (VirtualMachine.rested_of_looksUp hlooks), rfl⟩

lemma staysTrue_log {said : String} {reply : Reply} {remote : Bool}
    (h : (ofVirtual provider policy).StaysTrue before intent? (.replied said reply remote) s) :
    let next := (ofVirtual provider policy).log s said reply remote
    (ofVirtual provider policy).StaysTrue before intent? next.1 next.2 := by
  obtain ⟨rfl, rfl⟩ := h
  simp only [log]
  cases hi : reply.intent with
  | none => exact rfl
  | some intent =>
    dsimp only
    split
    · exact ⟨intent, hi, rfl, fun hs => Bool.noConfusion hs⟩
    · exact ⟨rfl, hi.symm⟩

lemma isTrue_conclude {after : Effects} {o : Outcome} {intent : Intent} (h : o.IsTrue intent before after)
    (response : Option String) : (conclude response o).IsTrue (some intent) before after := by
  cases response <;> exact ⟨intent, rfl, h⟩

lemma staysTrue_act {response : Option String} {intent : Intent}
    (h : (ofVirtual provider policy).StaysTrue before intent? (.acting response intent) s) :
    let next := (ofVirtual provider policy).act s response intent
    (ofVirtual provider policy).StaysTrue before intent? next.1 next.2 := by
  obtain ⟨rfl, rfl⟩ := h
  exact isTrue_conclude (intent.isTrue_execute policy.powerDelay s.spare s.devices s.scheduled) response

/-- Each stage stays true. -/
lemma staysTrue_advance {stage : Stage} (h : (ofVirtual provider policy).StaysTrue before intent? stage s) :
    let next := (ofVirtual provider policy).advance s stage
    (ofVirtual provider policy).StaysTrue before intent? next.1 next.2 := by
  cases stage with
  | arrived request => exact staysTrue_start h
  | consulting said history =>
    obtain ⟨rfl, rfl⟩ := h
    cases provider with
    | none => exact ⟨rfl, rfl⟩
    | some provider => exact ⟨rfl, rfl⟩
  | awaiting said completion wait =>
    obtain ⟨rfl, rfl⟩ := h
    cases completion with
    | ok text => exact ⟨rfl, rfl⟩
    | error e => exact ⟨rfl, rfl⟩
  | interpreting said => exact staysTrue_interpret h
  | replied said reply remote => exact staysTrue_log h
  | acting response intent => exact staysTrue_act h
  | reporting system => exact h.1
  | finished response => exact h

/-- A handled request is answered by the truth. -/
lemma isTrue_handle (provider : Option (Provider π)) (policy : Policy) (request : Request)
    (s : Agent.State VirtualMachine π) :
    let agent := ofVirtual provider policy
    (agent.handle request s).1.IsTrue (agent.intent? s request) s.effects (agent.handle request s).2.effects := by
  intro agent
  have hfirst : agent.StaysTrue s.effects (agent.intent? s request) (.arrived request) s := ⟨rfl, rfl⟩
  apply agent.complete_induction _ hfirst
  intro stage s h
  exact staysTrue_advance h

end

end Agent

/-! ## Runs -/

/-- Suspending and hibernating take place at once, the other power events when a power action does. -/
def PowerEvent.isSleep : PowerEvent → Bool
  | .suspend | .hibernate => true
  | .poweroff | .reboot => false

namespace Effects

/-- The effects as if no power action had taken place: power events that are not put off, and all power actions that
were scheduled, the ones that took place in front. -/
def standing (taken : List PowerAction) (e : Effects) : Effects where
  machine := { e.machine with events := e.machine.events.filter PowerEvent.isSleep }
  scheduled := taken ++ e.scheduled

/-- The effects after the changes of some intents. -/
def replay (intents : List Intent) (e : Effects) : Effects :=
  intents.foldl (fun e intent => intent.change e) e

lemma standing_change (taken : List PowerAction) (intent : Intent) (e : Effects) :
    (intent.change e).standing taken = intent.change (e.standing taken) := by
  unfold Intent.change
  cases Action.ofIntent intent with
  | error refusal => rfl
  | ok action => cases action <;> simp [Action.change, standing, PowerEvent.isSleep]

lemma standing_replay (taken : List PowerAction) (intents : List Intent) (e : Effects) :
    (e.replay intents).standing taken = (e.standing taken).replay intents := by
  induction intents generalizing e with
  | nil => rfl
  | cons intent intents ih =>
    have hcons : e.replay (intent :: intents) = (intent.change e).replay intents := rfl
    rw [hcons, ih, standing_change]
    rfl

lemma replay_append (intents more : List Intent) (e : Effects) :
    e.replay (intents ++ more) = (e.replay intents).replay more :=
  List.foldl_append

end Effects

/-- What happens to an agent: a request, the clock going on, the system having a thread to spare or none, the switch
that makes commands fail, and a power action taking place. -/
inductive Occasion where
  | request (request : Request)
  | tick (clock : Clock)
  | crowd (spare : Bool)
  | switch (failing : Bool)
  | fire

/-- A run so far: where it is, the intents with a successful outcome and the power actions that took place. -/
structure Ledger (π : Type) where
  state : Agent.State VirtualMachine π
  succeeded : List Intent
  taken : List PowerAction

namespace Ledger

variable (agent : Agent VirtualMachine π)

/-- The intent of a request, if the response carries a successful outcome. -/
def success? (s : Agent.State VirtualMachine π) (request : Request) : Option Intent :=
  match (agent.handle request s).1.carried? with
  | some o => if o.success then agent.intent? s request else none
  | none => none

def next (l : Ledger π) : Occasion → Ledger π
  | .request request =>
    ⟨(agent.handle request l.state).2, l.succeeded ++ (success? agent l.state request).toList, l.taken⟩
  | .tick clock => { l with state.clock := clock }
  | .crowd spare => { l with state.spare := spare }
  | .switch failing => { l with state.devices.failing := failing }
  | .fire => ⟨agent.fire l.state, l.succeeded, l.taken ++ l.state.scheduled.head?.toList⟩

def run (l : Ledger π) (occasions : List Occasion) : Ledger π :=
  occasions.foldl (next agent) l

section

variable (provider : Option (Provider π)) (policy : Policy)

lemma effects_handle (request : Request) (s : Agent.State VirtualMachine π) :
    let agent := Agent.ofVirtual provider policy
    (agent.handle request s).2.effects = s.effects.replay (success? agent s request).toList := by
  intro agent
  have htrue := Agent.isTrue_handle provider policy request s
  dsimp only [Response.IsTrue] at htrue
  unfold success?
  split at htrue
  · next hc =>
    rw [hc]
    exact htrue
  · next o hc =>
    obtain ⟨intent, hi, hchanged, -⟩ := htrue
    rw [hc, hchanged]
    dsimp only
    by_cases hs : o.success
    · rw [if_pos hs, if_pos hs, hi]
      rfl
    · rw [if_neg hs, if_neg hs]
      rfl

/-- A power action that takes place does not count. -/
lemma standing_fire (taken : List PowerAction) (s : Agent.State VirtualMachine π) :
    ((Agent.ofVirtual provider policy).fire s).effects.standing (taken ++ s.scheduled.head?.toList) =
      s.effects.standing taken := by
  cases hs : s.scheduled with
  | nil => simp [Agent.fire, hs]
  | cons power rest =>
    have hfire : ((Agent.ofVirtual provider policy).fire s).effects =
        ⟨(VirtualMachine.perform (.power power.event) s.devices).2.rested, rest⟩ := by
      simp only [Agent.fire, hs]
      rfl
    have hevent : power.event.isSleep = false := by cases power <;> rfl
    have hscheduled : (taken ++ [power]) ++ rest = taken ++ s.scheduled := by simp [hs]
    rw [hfire, List.head?_cons, Option.toList_some, Effects.standing, hscheduled]
    obtain ⟨e, next, hp, hr⟩ | ⟨reply, next, hp, hr⟩ := VirtualMachine.perform_cases (.power power.event) s.devices
    · rw [hp, hr]
      rfl
    · obtain ⟨-, hr⟩ := Prod.mk.inj hr
      rw [hp, ← hr]
      simp [Effects.standing, Agent.State.effects, hevent]

/-- An occasion replays the intents that succeed at it, and nothing else happens but that a power action takes
place. -/
lemma effects_next (l : Ledger π) {occasion : Occasion} (h : occasion ≠ .fire) :
    ∃ intents, (l.next (Agent.ofVirtual provider policy) occasion).succeeded = l.succeeded ++ intents ∧
      (l.next (Agent.ofVirtual provider policy) occasion).taken = l.taken ∧
      (l.next (Agent.ofVirtual provider policy) occasion).state.effects = l.state.effects.replay intents := by
  cases occasion with
  | request request => exact ⟨_, rfl, rfl, effects_handle provider policy request l.state⟩
  | tick clock => exact ⟨[], (List.append_nil _).symm, rfl, rfl⟩
  | crowd spare => exact ⟨[], (List.append_nil _).symm, rfl, rfl⟩
  | switch failing => exact ⟨[], (List.append_nil _).symm, rfl, rfl⟩
  | fire => exact (h rfl).elim

lemma standing_next (l : Ledger π) (occasion : Occasion) {first : Effects}
    (h : l.state.effects.standing l.taken = first.replay l.succeeded) :
    let next := l.next (Agent.ofVirtual provider policy) occasion
    next.state.effects.standing next.taken = first.replay next.succeeded := by
  by_cases hf : occasion = .fire
  · subst hf
    exact (standing_fire provider policy l.taken l.state).trans h
  · obtain ⟨intents, hs, ht, he⟩ := effects_next provider policy l hf
    dsimp only
    rw [hs, ht, he, Effects.standing_replay, Effects.replay_append, h]

/-- The intents that succeeded bring about all that a run does, apart from power actions that took place. -/
lemma standing_run (l : Ledger π) (occasions : List Occasion) {first : Effects}
    (h : l.state.effects.standing l.taken = first.replay l.succeeded) :
    let last := l.run (Agent.ofVirtual provider policy) occasions
    last.state.effects.standing last.taken = first.replay last.succeeded := by
  induction occasions generalizing l with
  | nil => exact h
  | cons occasion occasions ih => exact ih _ (standing_next provider policy l occasion h)

lemma effects_run (l : Ledger π) {occasions : List Occasion} (hfire : .fire ∉ occasions) {first : Effects}
    (h : l.state.effects = first.replay l.succeeded) :
    let last := l.run (Agent.ofVirtual provider policy) occasions
    last.state.effects = first.replay last.succeeded := by
  induction occasions generalizing l with
  | nil => exact h
  | cons occasion occasions ih =>
    rw [List.mem_cons, not_or] at hfire
    obtain ⟨intents, hs, -, he⟩ := effects_next provider policy l (Ne.symm hfire.1)
    apply ih _ hfire.2
    rw [he, hs, h, Effects.replay_append]

end

/-- A run that has not begun. -/
def begin (s : Agent.State VirtualMachine π) : Ledger π := ⟨s, [], []⟩

end Ledger

/-- Whatever the provider does and whether or not commands fail, the response to a request is true: without an outcome,
or with one that failed, it changes nothing, and with one that succeeded it makes the one change of the intent that came
with it, as its message says. So in any run the intents that succeeded bring the machine from where it was to where it
is, apart from the power actions that took place meanwhile. -/
theorem results_truthful (provider : Option (Provider π)) (policy : Policy) (s : Agent.State VirtualMachine π) :
    let agent := Agent.ofVirtual provider policy
    (∀ request, (agent.handle request s).1.IsTrue (agent.intent? s request) s.effects
      (agent.handle request s).2.effects) ∧
      ∀ occasions, let last := (Ledger.begin s).run agent occasions
        last.state.effects.standing last.taken = (s.effects.standing []).replay last.succeeded ∧
          (.fire ∉ occasions → last.state.effects = s.effects.replay last.succeeded) := by
  intro agent
  refine ⟨fun request => Agent.isTrue_handle provider policy request s, fun occasions => ⟨?_, fun hfire => ?_⟩⟩
  · exact Ledger.standing_run provider policy (Ledger.begin s) occasions rfl
  · exact Ledger.effects_run provider policy (Ledger.begin s) hfire rfl

/-- A brightness out of range, a mute while commands fail and a reboot. -/
theorem results_truthful_offline :
    let policy : Policy := ⟨true, 1024, 1000, 5, "none"⟩
    let s : Agent.State VirtualMachine Unit :=
      ⟨⟨10, []⟩, VirtualMachine.initial, (), [], ⟨0, 0, 0, 3, 0, 1, 1970, 0⟩, true⟩
    let occasions : List Occasion :=
      [.request (.action (.object [("action", .string "brightness"), ("level", .ofInt 150)])), .switch true,
        .request (.chat "mute"), .switch false, .request (.action (.object [("action", .string "reboot")]))]
    let last := (Ledger.begin s).run (Agent.ofVirtual none policy) occasions
    last.state.effects = s.effects.replay last.succeeded ∧
      last.state.devices.settings = ⟨100, 50, false, true, false⟩ ∧ last.state.scheduled = [.reboot] ∧
      last.succeeded.map Intent.name = ["brightness", "reboot"] := by
  intro policy s occasions last
  have hfire : .fire ∉ occasions := by simp [occasions]
  have htruthful := results_truthful none policy s
  exact ⟨(htruthful.2 occasions).2 hfire, by decide +kernel, by decide +kernel, by decide +kernel⟩

end DeviceAgent
