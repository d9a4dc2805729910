import DeviceAgent.Agent.Basic
import DeviceAgent.Device.Virtual
import Mathlib.Data.List.Forall2
import Mathlib.Tactic.Lemma

/-!
# A provider that fails

An agent whose provider fails does what an agent without a provider does, request by request, and only what it tells of
the clock is told at its own time. What a provider answers is the reply, and nothing else is asked for one.
-/

namespace DeviceAgent

variable {σ π : Type}

/-! ## Lists side by side -/

section Lists

variable {α β : Type} {r : α → β → Prop} {l : List α} {m : List β}

lemma forall₂_findIdx? {p : α → Bool} {q : β → Bool} (hpq : ∀ a b, r a b → p a = q b) (h : List.Forall₂ r l m) :
    l.findIdx? p = m.findIdx? q := by
  induction h with
  | nil => rfl
  | cons hr _ ih => rw [List.findIdx?_cons, List.findIdx?_cons, hpq _ _ hr, ih]

lemma forall₂_eraseIdx (i : Nat) (h : List.Forall₂ r l m) : List.Forall₂ r (l.eraseIdx i) (m.eraseIdx i) := by
  rw [List.eraseIdx_eq_take_drop_succ, List.eraseIdx_eq_take_drop_succ]
  exact List.rel_append (List.forall₂_take i h) (List.forall₂_drop (i + 1) h)

end Lists

/-! ## What differs by the clock alone -/

/-- Two texts that are the same, or tell the time or the date of one moment, each by its clock. -/
inductive TextAlike (R : Clock → Clock → Prop) : String → String → Prop
  | same (text : String) : TextAlike R text text
  | time {c c' : Clock} (h : R c c') : TextAlike R ("The time is " ++ c.timeText) ("The time is " ++ c'.timeText)
  | date {c c' : Clock} (h : R c c') : TextAlike R ("Today is " ++ c.dateText) ("Today is " ++ c'.dateText)

inductive ResponseAlike (R : Clock → Clock → Prop) : Response → Response → Prop
  | chat {text text' : String} (h : TextAlike R text text') (v : Verdict) (outcome : Option Outcome) :
    ResponseAlike R (.chat v text outcome) (.chat v text' outcome)
  | same (response : Response) : ResponseAlike R response response

structure TurnAlike (R : Clock → Clock → Prop) (t t' : Turn) : Prop where
  role : t.role = t'.role
  content : TextAlike R t.content t'.content

structure ConversationAlike (R : Clock → Clock → Prop) (c c' : Conversation) : Prop where
  capacity : c.capacity = c'.capacity
  turns : List.Forall₂ (TurnAlike R) c.turns c'.turns

/-- The states of two agents with the same conversation, clocks aside, the same devices and power actions, where the
provider of the first is down. -/
structure StateAlike (R : Clock → Clock → Prop) (down : π → Prop) (s s' : Agent.State σ π) : Prop where
  conversation : ConversationAlike R s.conversation s'.conversation
  devices : s.devices = s'.devices
  scheduled : s.scheduled = s'.scheduled
  spare : s.spare = s'.spare
  down : down s.provider

variable {R : Clock → Clock → Prop}

lemma TextAlike.eq {text text' : String} (h : TextAlike (· = ·) text text') : text = text' := by
  cases h with
  | same => rfl
  | time hc => rw [hc]
  | date hc => rw [hc]

lemma ResponseAlike.eq {r r' : Response} (h : ResponseAlike (· = ·) r r') : r = r' := by
  cases h with
  | chat ht => rw [ht.eq]
  | same => rfl

namespace ConversationAlike

variable {c c' : Conversation}

lemma eq (h : ConversationAlike (· = ·) c c') : c = c' := by
  have hturn (t t' : Turn) (ht : TurnAlike (· = ·) t t') : t = t' := by
    cases t
    cases t'
    rw [Turn.mk.injEq]
    exact ⟨ht.role, ht.content.eq⟩
  have hturns : List.Forall₂ (· = ·) c.turns c'.turns := h.turns.imp hturn
  rw [List.forall₂_eq_eq_eq] at hturns
  cases c
  cases c'
  rw [Conversation.mk.injEq]
  exact ⟨h.capacity, hturns⟩

lemma evictOne {turns turns' : List Turn} (h : List.Forall₂ (TurnAlike R) turns turns') :
    List.Forall₂ (TurnAlike R) (Conversation.evictOne turns) (Conversation.evictOne turns') := by
  have hrole (t t' : Turn) (ht : TurnAlike R t t') : (t.role != .system) = (t'.role != .system) := by rw [ht.role]
  -- Which turn gives way depends on the roles alone.
  unfold Conversation.evictOne
  rw [forall₂_findIdx? hrole h]
  cases turns'.findIdx? fun t => t.role != .system with
  | none => exact List.forall₂_drop 1 h
  | some i => exact forall₂_eraseIdx i h

lemma evict (n : Nat) {turns turns' : List Turn} (h : List.Forall₂ (TurnAlike R) turns turns') :
    List.Forall₂ (TurnAlike R) (Conversation.evict n turns) (Conversation.evict n turns') := by
  induction n generalizing turns turns' with
  | zero => exact h
  | succ n ih => exact ih (evictOne h)

lemma push (h : ConversationAlike R c c') {t t' : Turn} (ht : TurnAlike R t t') :
    ConversationAlike R (c.push t) (c'.push t') := by
  refine ⟨h.capacity, ?_⟩
  have hlength := h.turns.length_eq
  have hroom := evict (c'.turns.length + 1 - c'.capacity) h.turns
  simp only [Conversation.push, Conversation.makeRoom, hlength, h.capacity]
  exact List.rel_append hroom (.cons ht .nil)

lemma appendExchange (h : ConversationAlike R c c') (said : String) {text text' : String}
    (ht : TextAlike R text text') :
    ConversationAlike R (c.appendExchange said text) (c'.appendExchange said text') := by
  have hsaid : TurnAlike R (.user said) (.user said) := ⟨rfl, .same said⟩
  have hreply : TurnAlike R (.assistant text) (.assistant text') := ⟨rfl, ht⟩
  exact (h.push hsaid).push hreply

lemma clear (h : ConversationAlike R c c') : ConversationAlike R c.clear c'.clear := ⟨h.capacity, .nil⟩

end ConversationAlike

/-! ## The interpreter by two clocks -/

namespace Interpreter

/-- Replies that differ by the clock alone, over the same devices. -/
structure AnswerAlike (R : Clock → Clock → Prop) (answer answer' : Reply × σ) : Prop where
  text : TextAlike R answer.1.text answer'.1.text
  intent : answer.1.intent = answer'.1.intent
  devices : answer.2 = answer'.2

lemma answerAlike_same (answer : Reply × σ) : AnswerAlike R answer answer := ⟨.same _, rfl, rfl⟩

lemma answerAlike_say {text text' : String} (h : TextAlike R text text') (s : σ) :
    AnswerAlike R (.say text, s) (.say text', s) := ⟨h, rfl, rfl⟩

lemma answerAlike_ite {p : Prop} [Decidable p] {x x' y y' : Reply × σ} (hx : AnswerAlike R x x')
    (hy : AnswerAlike R y y') : AnswerAlike R (if p then x else y) (if p then x' else y') := by
  split
  · exact hx
  · exact hy

lemma answerAlike_plain {clock clock' : Clock} (h : R clock clock') (u : Utterance) (s : σ) :
    AnswerAlike R (plain clock u, s) (plain clock' u, s) := by
  have hsame (r : Reply) : AnswerAlike R (r, s) (r, s) := answerAlike_same _
  unfold plain
  split
  · exact hsame _
  split
  · exact hsame _
  split
  · exact hsame _
  split
  · exact hsame _
  split
  · exact answerAlike_say (.time h) s
  split
  · exact answerAlike_say (.date h) s
  · exact hsame _

/-- The clock shows in the replies about the time and the date only. -/
lemma answerAlike_interpret (backend : Backend σ) (confirm : Bool) {clock clock' : Clock} (h : R clock clock')
    (said : String) (s : σ) :
    AnswerAlike R (interpret backend confirm clock said s) (interpret backend confirm clock' said s) := by
  -- The clock is looked at in the last branch only; the others are the same on both sides.
  unfold interpret
  apply answerAlike_ite (answerAlike_same _)
  apply answerAlike_ite (answerAlike_same _)
  apply answerAlike_ite (answerAlike_same _)
  apply answerAlike_ite (answerAlike_same _)
  apply answerAlike_ite (answerAlike_same _)
  apply answerAlike_ite (answerAlike_same _)
  apply answerAlike_ite (answerAlike_same _)
  apply answerAlike_ite (answerAlike_same _)
  apply answerAlike_ite (answerAlike_same _)
  exact answerAlike_plain h _ s

end Interpreter

/-! ## One request -/

/-- A provider that fails, whatever it is asked, when it is down, and stays down: it takes longer than the limit, or
comes to an error. -/
structure Provider.Fails (p : Provider π) (limit : Nat) (down : π → Prop) : Prop where
  error : ∀ {state : π}, down state → ∀ history said,
    limit < p.delay history said state ∨ ∃ e, (p.complete history said state).1 = .error e
  down : ∀ {state : π}, down state → ∀ history said, down (p.within limit history said state).2

/-- Under the limit, such a provider comes to an error in either case. -/
lemma Provider.Fails.within {p : Provider π} {limit : Nat} {down : π → Prop} (h : p.Fails limit down) {state : π}
    (hs : down state) (history : List Turn) (said : String) :
    ∃ e, (p.within limit history said state).1 = .error e := by
  by_cases hlate : limit < p.delay history said state
  · exact ⟨.timeout (limit / 1000), by rw [within_of_late hlate]⟩
  · obtain ⟨e, he⟩ := (h.error hs history said).resolve_left hlate
    rw [within_of_timely (Nat.not_lt.mp hlate)]
    exact ⟨e, he⟩

namespace Agent

def alone (agent : Agent σ π) : Agent σ π := { agent with provider := none }

variable {agent : Agent σ π} {down : π → Prop} {s s' : Agent.State σ π}

lemma complete_acting (agent : Agent σ π) (response : Option String) (intent : Intent) (s : Agent.State σ π) :
    agent.complete (.acting response intent) s =
      let e := intent.execute agent.backend agent.policy.powerDelay s.spare s.devices
      (conclude response e.outcome,
        { s with devices := e.device, scheduled := s.scheduled ++ e.scheduled.toList }) := by
  rw [complete_eq_complete_advance]
  rfl

lemma alike_acting (h : StateAlike R down s s') {response response' : Option String} {intent : Intent}
    (hr : ∀ outcome, ResponseAlike R (conclude response outcome) (conclude response' outcome)) :
    ResponseAlike R (agent.complete (.acting response intent) s).1
        (agent.alone.complete (.acting response' intent) s').1 ∧
      StateAlike R down (agent.complete (.acting response intent) s).2
        (agent.alone.complete (.acting response' intent) s').2 := by
  rw [complete_acting, complete_acting]
  have hexecute : intent.execute agent.alone.backend agent.alone.policy.powerDelay s'.spare s'.devices =
      intent.execute agent.backend agent.policy.powerDelay s.spare s.devices := by
    rw [h.devices, h.spare]
    rfl
  rw [hexecute]
  exact ⟨hr _, h.conversation, rfl, by rw [h.scheduled], h.spare, h.down⟩

lemma alike_replied (h : StateAlike R down s s') (said : String) {reply reply' : Reply}
    (ht : TextAlike R reply.text reply'.text) (hi : reply.intent = reply'.intent) :
    ResponseAlike R (agent.complete (.replied said reply false) s).1
        (agent.alone.complete (.replied said reply' false) s').1 ∧
      StateAlike R down (agent.complete (.replied said reply false) s).2
        (agent.alone.complete (.replied said reply' false) s').2 := by
  have hlogged : StateAlike R down { s with conversation := s.conversation.appendExchange said reply.text }
      { s' with conversation := s'.conversation.appendExchange said reply'.text } :=
    ⟨h.conversation.appendExchange said ht, h.devices, h.scheduled, h.spare, h.down⟩
  rw [complete_eq_complete_advance, agent.alone.complete_eq_complete_advance]
  simp only [advance, log, hi]
  cases reply'.intent with
  | none => exact ⟨.chat ht _ _, hlogged⟩
  | some intent => exact alike_acting hlogged fun outcome => .chat ht _ _

lemma complete_interpreting (agent : Agent σ π) (said : String) (s : Agent.State σ π) :
    agent.complete (.interpreting said) s =
      let answer := Interpreter.interpret agent.backend agent.policy.confirmDangerous s.clock said s.devices
      agent.complete (.replied said answer.1 false) { s with devices := answer.2 } := by
  rw [complete_eq_complete_advance]
  rfl

lemma alike_interpreting (h : StateAlike R down s s') (hc : R s.clock s'.clock) (said : String) :
    ResponseAlike R (agent.complete (.interpreting said) s).1 (agent.alone.complete (.interpreting said) s').1 ∧
      StateAlike R down (agent.complete (.interpreting said) s).2 (agent.alone.complete (.interpreting said) s').2 := by
  have hanswer : Interpreter.AnswerAlike R
      (Interpreter.interpret agent.backend agent.policy.confirmDangerous s.clock said s.devices)
      (Interpreter.interpret agent.alone.backend agent.alone.policy.confirmDangerous s'.clock said s'.devices) := by
    rw [← h.devices]
    exact Interpreter.answerAlike_interpret agent.backend agent.policy.confirmDangerous hc said s.devices
  rw [complete_interpreting, complete_interpreting]
  generalize Interpreter.interpret agent.backend agent.policy.confirmDangerous s.clock said s.devices = answer
    at hanswer ⊢
  generalize Interpreter.interpret agent.alone.backend _ s'.clock said s'.devices = answer' at hanswer ⊢
  have hnext : StateAlike R down { s with devices := answer.2 } { s' with devices := answer'.2 } :=
    ⟨h.conversation, hanswer.devices, h.scheduled, h.spare, h.down⟩
  exact alike_replied hnext said hanswer.text hanswer.intent

lemma handle_chat_failed {p : Provider π} (hp : agent.provider = some p) (s : Agent.State σ π) (said : String)
    {failure : ProviderFailure}
    (hf : (p.within agent.policy.replyLimit s.conversation.turns said s.provider).1 = .error failure) :
    agent.handle (.chat said) s = agent.complete (.interpreting said)
      { s with provider := (p.within agent.policy.replyLimit s.conversation.turns said s.provider).2 } := by
  have hstart : agent.advance s (.arrived (.chat said)) = (.consulting said s.conversation.turns, s) := by
    simp [advance, start, hp]
  rw [handle, complete_eq_complete_advance, hstart, complete_eq_complete_advance]
  simp only [advance, consult, hp]
  rw [complete_eq_complete_advance]
  simp only [advance, hf, arrive]

lemma handle_chat_alone (agent : Agent σ π) (s : Agent.State σ π) (said : String) :
    agent.alone.handle (.chat said) s = agent.alone.complete (.interpreting said) s := by
  rw [handle, complete_eq_complete_advance]
  rfl

/-- A request other than for the status, handled with a provider that is down and with none. -/
lemma alike_handle {p : Provider π} (hp : agent.provider = some p) (hf : p.Fails agent.policy.replyLimit down)
    (h : StateAlike R down s s') (hc : R s.clock s'.clock) {request : Request} (hr : request ≠ .status) :
    ResponseAlike R (agent.handle request s).1 (agent.alone.handle request s').1 ∧
      StateAlike R down (agent.handle request s).2 (agent.alone.handle request s').2 := by
  cases request with
  | chat said =>
    obtain ⟨failure, hfailure⟩ := hf.within h.down s.conversation.turns said
    have hasked : StateAlike R down
        { s with provider := (p.within agent.policy.replyLimit s.conversation.turns said s.provider).2 } s' :=
      ⟨h.conversation, h.devices, h.scheduled, h.spare, hf.down h.down s.conversation.turns said⟩
    rw [handle_chat_failed hp s said hfailure, handle_chat_alone]
    exact alike_interpreting hasked hc said
  | action value =>
    rw [handle, handle, complete_eq_complete_advance, agent.alone.complete_eq_complete_advance]
    simp only [advance, start]
    cases Intent.ofJson? value with
    | none => exact ⟨.same _, h⟩
    | some intent => exact alike_acting h fun outcome => .same _
  | status => exact (hr rfl).elim
  | clear => exact ⟨.same _, h.conversation.clear, h.devices, h.scheduled, h.spare, h.down⟩

lemma alike_fire (h : StateAlike R down s s') : StateAlike R down (agent.fire s) (agent.alone.fire s') := by
  unfold fire
  rw [← h.scheduled]
  cases s.scheduled with
  | nil => exact h
  | cons action rest => exact ⟨h.conversation, by rw [← h.devices]; rfl, rfl, h.spare, h.down⟩

end Agent

/-! ## One request after another -/

/-- A request at a time, the end of the delay of a power action, or a change of what the system has to spare. -/
inductive Visit where
  | ask (clock : Clock) (request : Request)
  | fire
  | crowd (spare : Bool)

/-- Visits with the same requests, not for the status. -/
inductive VisitAlike (R : Clock → Clock → Prop) : Visit → Visit → Prop
  | ask {c c' : Clock} (h : R c c') {request : Request} (hr : request ≠ .status) :
    VisitAlike R (.ask c request) (.ask c' request)
  | fire : VisitAlike R .fire .fire
  | crowd (spare : Bool) : VisitAlike R (.crowd spare) (.crowd spare)

inductive AnswerAlike (R : Clock → Clock → Prop) (down : π → Prop) :
    Option Response × Agent.State σ π → Option Response × Agent.State σ π → Prop
  | asked {r r' : Response} {s s' : Agent.State σ π} (hr : ResponseAlike R r r') (hs : StateAlike R down s s') :
    AnswerAlike R down (some r, s) (some r', s')
  | unasked {s s' : Agent.State σ π} (hs : StateAlike R down s s') : AnswerAlike R down (none, s) (none, s')

lemma AnswerAlike.state {down : π → Prop} {answer answer' : Option Response × Agent.State σ π}
    (h : AnswerAlike R down answer answer') : StateAlike R down answer.2 answer'.2 := by
  cases h with
  | asked _ hs => exact hs
  | unasked hs => exact hs

namespace Agent

/-- The response to a visit, if it asks for one, and the state then. -/
def visit (agent : Agent σ π) (s : Agent.State σ π) : Visit → Option Response × Agent.State σ π
  | .ask clock request =>
    let (response, s) := agent.handle request { s with clock := clock }
    (some response, s)
  | .fire => (none, agent.fire s)
  | .crowd spare => (none, { s with spare := spare })

def visits (agent : Agent σ π) (s : Agent.State σ π) : List Visit → List (Option Response × Agent.State σ π)
  | [] => []
  | v :: rest => agent.visit s v :: agent.visits (agent.visit s v).2 rest

/-- What the outside sees of an answer: the response, the turns, the devices and the power actions that wait. -/
def seen (answer : Option Response × Agent.State σ π) : Option Response × Conversation × σ × List PowerAction :=
  (answer.1, answer.2.conversation, answer.2.devices, answer.2.scheduled)

lemma seen_eq {down : π → Prop} {answer answer' : Option Response × Agent.State σ π}
    (h : AnswerAlike (· = ·) down answer answer') : seen answer = seen answer' := by
  cases h with
  | asked hr hs => simp only [seen, hr.eq, hs.conversation.eq, hs.devices, hs.scheduled]
  | unasked hs => simp only [seen, hs.conversation.eq, hs.devices, hs.scheduled]

variable {agent : Agent σ π} {p : Provider π} {down : π → Prop}

lemma alike_visit (hp : agent.provider = some p) (hf : p.Fails agent.policy.replyLimit down) {s s' : Agent.State σ π}
    (h : StateAlike R down s s') {v v' : Visit} (hv : VisitAlike R v v') :
    AnswerAlike R down (agent.visit s v) (agent.alone.visit s' v') := by
  cases hv with
  | @ask c c' hc request hr =>
    have hclock : StateAlike R down { s with clock := c } { s' with clock := c' } :=
      ⟨h.conversation, h.devices, h.scheduled, h.spare, h.down⟩
    obtain ⟨hresponse, hstate⟩ := alike_handle hp hf hclock hc hr
    exact .asked hresponse hstate
  | fire => exact .unasked (alike_fire h)
  | crowd spare => exact .unasked ⟨h.conversation, h.devices, h.scheduled, rfl, h.down⟩

lemma alike_visits (hp : agent.provider = some p) (hf : p.Fails agent.policy.replyLimit down) {s s' : Agent.State σ π}
    (h : StateAlike R down s s') {vs vs' : List Visit} (hv : List.Forall₂ (VisitAlike R) vs vs') :
    List.Forall₂ (AnswerAlike R down) (agent.visits s vs) (agent.alone.visits s' vs') := by
  induction hv generalizing s s' with
  | nil => exact .nil
  | cons hfirst _ ih =>
    have hanswer := alike_visit hp hf h hfirst
    exact .cons hanswer (ih hanswer.state)

lemma alike_self {s : Agent.State σ π} (hs : down s.provider) : StateAlike R down s s := by
  have hturns : List.Forall₂ (TurnAlike R) s.conversation.turns s.conversation.turns :=
    List.forall₂_same.mpr fun t _ => ⟨rfl, .same _⟩
  exact ⟨⟨rfl, hturns⟩, rfl, rfl, rfl, hs⟩

/-- Two agents that differ in a provider that is down cannot be told apart by the same visits at the same times. -/
lemma seen_visits (hp : agent.provider = some p) (hf : p.Fails agent.policy.replyLimit down) {s : Agent.State σ π}
    (hs : down s.provider) {vs : List Visit} (hv : ∀ clock, .ask clock .status ∉ vs) :
    (agent.visits s vs).map seen = (agent.alone.visits s vs).map seen := by
  have hsame : List.Forall₂ (VisitAlike (· = ·)) vs vs := by
    rw [List.forall₂_same]
    intro v hmem
    cases v with
    | ask clock request => exact .ask rfl fun hr => hv clock (hr ▸ hmem)
    | fire => exact .fire
    | crowd spare => exact .crowd spare
  -- With equal clocks, to be alike is to be equal.
  have hanswers := alike_visits hp hf (alike_self hs) hsame
  rw [← List.forall₂_eq_eq_eq, List.forall₂_map_left_iff, List.forall₂_map_right_iff]
  exact hanswers.imp fun _ _ h => seen_eq h

end Agent

/-! ## A provider that answers -/

namespace Agent

/-- The stages of a request, given the state that each of them finds. -/
def stages (agent : Agent σ π) (states : Nat → Agent.State σ π) (request : Request) : Nat → Stage
  | 0 => .arrived request
  | n + 1 => (agent.advance (states n) (agent.stages states request n)).1

/-- What is asked of the provider, and what comes of it. -/
structure Answered (agent : Agent σ π) (states : Nat → Agent.State σ π) (said text : String) : Prop where
  consulting : agent.stages states (.chat said) 1 = .consulting said (states 0).conversation.turns
  awaiting : ∃ wait, agent.stages states (.chat said) 2 = .awaiting said (.ok text) wait
  replied : agent.stages states (.chat said) 3 = .replied said ⟨text, embeddedIntent? text⟩ true
  settled : (∃ intent, agent.stages states (.chat said) 4 = .acting (some text) intent) ∨
    ∃ outcome, agent.stages states (.chat said) 4 = .finished (.chat .ok text outcome)
  finished : ∃ outcome, ∀ n, agent.stages states (.chat said) (n + 5) = .finished (.chat .ok text outcome)

lemma answered {agent : Agent σ π} {p : Provider π} (hp : agent.provider = some p) {states : Nat → Agent.State σ π}
    {said text : String} (h : (p.within agent.policy.replyLimit (states 0).conversation.turns said
      (states 1).provider).1 = .ok text) : agent.Answered states said text := by
  have hconsulting : agent.stages states (.chat said) 1 = .consulting said (states 0).conversation.turns := by
    simp [stages, advance, start, hp]
  have hawaiting : agent.stages states (.chat said) 2 =
      .awaiting said (.ok text) (p.wait agent.policy.replyLimit (states 0).conversation.turns said
        (states 1).provider) := by
    rw [stages, hconsulting]
    simp only [advance, consult, hp, h]
  have hreplied : agent.stages states (.chat said) 3 = .replied said ⟨text, embeddedIntent? text⟩ true := by
    rw [stages, hawaiting]
    rfl
  have hsettled : (∃ intent, agent.stages states (.chat said) 4 = .acting (some text) intent) ∨
      ∃ outcome, agent.stages states (.chat said) 4 = .finished (.chat .ok text outcome) := by
    rw [stages, hreplied]
    simp only [advance, log]
    cases embeddedIntent? text with
    | none => exact Or.inr ⟨none, rfl⟩
    | some intent =>
      dsimp only
      split
      · exact Or.inr ⟨some (heldOutcome intent), rfl⟩
      · exact Or.inl ⟨intent, rfl⟩
  refine ⟨hconsulting, ⟨_, hawaiting⟩, hreplied, hsettled, ?_⟩
  have hfifth : ∃ outcome, agent.stages states (.chat said) 5 = .finished (.chat .ok text outcome) := by
    rw [stages]
    obtain ⟨intent, hacting⟩ | ⟨outcome, hfinished⟩ := hsettled
    · rw [hacting]
      exact ⟨_, rfl⟩
    · rw [hfinished]
      exact ⟨outcome, rfl⟩
  obtain ⟨outcome, hfifth⟩ := hfifth
  refine ⟨outcome, fun n => ?_⟩
  induction n with
  | zero => exact hfifth
  | succ n ih =>
    rw [stages, ih]
    rfl

/-- Each stage of a chat that the provider answers leaves the state as it is but for one thing: the call, the exchange
in the log, or what the intent in the reply does. -/
lemma Answered.advance {agent : Agent σ π} {p : Provider π} (hp : agent.provider = some p)
    {states : Nat → Agent.State σ π} {said text : String} (h : agent.Answered states said text) (n : Nat) :
    let next := (agent.advance (states n) (agent.stages states (.chat said) n)).2
    next.conversation = (if n = 3 then (states n).conversation.appendExchange said text else (states n).conversation) ∧
      next.provider = (if n = 1 then (p.within agent.policy.replyLimit (states 0).conversation.turns said
        (states n).provider).2 else (states n).provider) ∧
      (n ≠ 4 → next.devices = (states n).devices) := by
  match n with
  | 0 => simp [stages, Agent.advance, start, hp]
  | 1 =>
    rw [h.consulting]
    simp [Agent.advance, consult, hp]
  | 2 =>
    obtain ⟨wait, hawaiting⟩ := h.awaiting
    rw [hawaiting]
    simp [Agent.advance]
  | 3 =>
    rw [h.replied]
    simp only [Agent.advance, log]
    cases embeddedIntent? text with
    | none => simp
    | some intent =>
      dsimp only
      split <;> simp
  | 4 =>
    obtain ⟨intent, hacting⟩ | ⟨outcome, hfinished⟩ := h.settled
    · rw [hacting]
      simp [Agent.advance, act]
    · rw [hfinished]
      simp [Agent.advance]
  | n + 5 =>
    obtain ⟨outcome, hfinished⟩ := h.finished
    rw [hfinished]
    simp [Agent.advance]

lemma Answered.asks {agent : Agent σ π} {states : Nat → Agent.State σ π} {said text : String}
    (h : agent.Answered states said text) (n : Nat) :
    ((∃ other history, agent.stages states (.chat said) n = .consulting other history) ↔ n = 1) ∧
      ∀ other, agent.stages states (.chat said) n ≠ .interpreting other := by
  match n with
  | 0 => simp [stages]
  | 1 => simp [h.consulting]
  | 2 =>
    obtain ⟨wait, hawaiting⟩ := h.awaiting
    simp [hawaiting]
  | 3 => simp [h.replied]
  | 4 => obtain ⟨intent, hstage⟩ | ⟨outcome, hstage⟩ := h.settled <;> simp [hstage]
  | n + 5 =>
    obtain ⟨outcome, hfinished⟩ := h.finished
    simp [hfinished]

/-- The stage and the state that a request which is alone comes to. -/
def trail (agent : Agent σ π) (request : Request) (s : Agent.State σ π) : Nat → Stage × Agent.State σ π
  | 0 => (.arrived request, s)
  | n + 1 => agent.advance (agent.trail request s n).2 (agent.trail request s n).1

lemma stages_trail (agent : Agent σ π) (request : Request) (s : Agent.State σ π) (n : Nat) :
    agent.stages (fun n => (agent.trail request s n).2) request n = (agent.trail request s n).1 := by
  induction n with
  | zero => rfl
  | succ n ih =>
    rw [stages, ih]
    rfl

lemma handle_eq_trail (agent : Agent σ π) (request : Request) (s : Agent.State σ π) (n : Nat) :
    agent.handle request s = agent.complete (agent.trail request s n).1 (agent.trail request s n).2 := by
  induction n with
  | zero => rfl
  | succ n ih =>
    rw [ih, complete_eq_complete_advance]
    rfl

lemma handle_answered {agent : Agent σ π} {p : Provider π} (hp : agent.provider = some p) {s : Agent.State σ π}
    {said text : String}
    (h : (p.within agent.policy.replyLimit s.conversation.turns said s.provider).1 = .ok text) :
    ∃ outcome next, agent.handle (.chat said) s = (.chat .ok text outcome, next) ∧
      next.conversation = s.conversation.appendExchange said text ∧
      next.provider = (p.within agent.policy.replyLimit s.conversation.turns said s.provider).2 := by
  let states (n : Nat) : Agent.State σ π := (agent.trail (.chat said) s n).2
  have hstages (n : Nat) : agent.stages states (.chat said) n = (agent.trail (.chat said) s n).1 :=
    agent.stages_trail (.chat said) s n
  have hfirst : states 1 = s := by simp [states, trail, advance, start, hp]
  have hanswered : agent.Answered states said text := answered hp (by rwa [hfirst])
  have hstep (n : Nat) : states (n + 1) = (agent.advance (states n) (agent.stages states (.chat said) n)).2 := by
    rw [hstages]
    rfl
  have hconversation (n : Nat) : (states (n + 1)).conversation =
      if n = 3 then (states n).conversation.appendExchange said text else (states n).conversation := by
    rw [hstep]
    exact (hanswered.advance hp n).1
  have hprovider (n : Nat) : (states (n + 1)).provider =
      if n = 1 then (p.within agent.policy.replyLimit s.conversation.turns said (states n).provider).2
      else (states n).provider := by
    rw [hstep]
    exact (hanswered.advance hp n).2.1
  obtain ⟨outcome, hfinished⟩ := hanswered.finished
  refine ⟨outcome, states 5, ?_, ?_, ?_⟩
  · rw [agent.handle_eq_trail _ _ 5, ← hstages, hfinished 0, complete_finished]
  · simp [hconversation, hfirst]
  · simp [hprovider, hfirst]

/-- Whatever the failures of a provider are, the visits of an agent come to what those of the agent without it come to,
also when the clocks of the two differ, up to texts that tell the time or the date. A text that the provider answers
within the limit is the response of the chat and its part of the log: the provider is asked once, the interpreter is
not, whatever other requests do to the state between the stages. -/
theorem provider_failures_invisible (agent : Agent σ π) {p : Provider π} (hp : agent.provider = some p) :
    (∀ down : π → Prop, p.Fails agent.policy.replyLimit down → ∀ s : Agent.State σ π, down s.provider →
      (∀ vs, (∀ clock, .ask clock .status ∉ vs) → (agent.visits s vs).map seen = (agent.alone.visits s vs).map seen) ∧
      ∀ R vs vs', List.Forall₂ (VisitAlike R) vs vs' →
        List.Forall₂ (AnswerAlike R down) (agent.visits s vs) (agent.alone.visits s vs')) ∧
    (∀ (s : Agent.State σ π) (said text : String),
      p.delay s.conversation.turns said s.provider ≤ agent.policy.replyLimit →
      (p.complete s.conversation.turns said s.provider).1 = .ok text →
      ∃ outcome next, agent.handle (.chat said) s = (.chat .ok text outcome, next) ∧
        next.conversation = s.conversation.appendExchange said text ∧
        next.provider = (p.complete s.conversation.turns said s.provider).2) ∧
    ∀ (states : Nat → Agent.State σ π) (said text : String),
      p.delay (states 0).conversation.turns said (states 1).provider ≤ agent.policy.replyLimit →
      (p.complete (states 0).conversation.turns said (states 1).provider).1 = .ok text →
      let stage := agent.stages states (.chat said)
      (∃ outcome, ∀ n, stage (n + 5) = .finished (.chat .ok text outcome)) ∧
      ∀ n, let next := (agent.advance (states n) (stage n)).2
        ((∃ other history, stage n = .consulting other history) ↔ n = 1) ∧ (∀ other, stage n ≠ .interpreting other) ∧
        next.conversation =
          (if n = 3 then (states n).conversation.appendExchange said text else (states n).conversation) ∧
        next.provider = (if n = 1 then (p.complete (states 0).conversation.turns said (states n).provider).2
          else (states n).provider) ∧
        (n ≠ 4 → next.devices = (states n).devices) := by
  refine ⟨?_, ?_, ?_⟩
  · intro down hf s hs
    refine ⟨fun vs hv => seen_visits hp hf hs hv, ?_⟩
    intro R vs vs' hv
    exact alike_visits hp hf (alike_self hs) hv
  · intro s said text ht h
    have hwithin := p.within_of_timely ht
    rw [← hwithin] at h ⊢
    exact handle_answered hp h
  · intro states said text ht h stage
    have hwithin := p.within_of_timely ht
    have hanswered := answered hp (hwithin ▸ h)
    refine ⟨hanswered.finished, fun n => ?_⟩
    obtain ⟨hconversation, hprovider, hdevices⟩ := hanswered.advance hp n
    refine ⟨(hanswered.asks n).1, (hanswered.asks n).2, hconversation, ?_, hdevices⟩
    rw [hprovider]
    by_cases hn : n = 1
    · rw [if_pos hn, if_pos hn, hn, hwithin]
    · rw [if_neg hn, if_neg hn]

/-- An agent whose provider has thirty seconds. -/
def patientAgent : Agent VirtualMachine Script :=
  ⟨VirtualMachine.backend, some Script.provider, ⟨true, 65536, 30000, 5, "none"⟩⟩

def noon : Clock := ⟨12, 0, 0, Fin.last 6, Fin.last 11, 28, 2025, 60⟩

def SameDay (c c' : Clock) : Prop := c.day = c'.day

/-- A provider that greets after so many milliseconds. -/
def greeting (delay : Nat) : Agent.State VirtualMachine Script :=
  ⟨.empty 20, .initial, ⟨[.ok "Hello."], delay, []⟩, [], noon, true⟩

/-- A client that asks for the time, turns the volume up, clears the conversation and shuts down. -/
def errands (clock : Clock) : List Visit :=
  [.ask clock (.chat "What time is it?"), .ask clock (.chat "Volume up"), .ask clock .clear,
    .ask clock (.action (.object [("name", .string "shutdown")])), .fire]

/-- A script whose replies come after the limit is a provider that fails. -/
lemma fails_of_late (limit : Nat) : Script.provider.Fails limit (limit < ·.delay) where
  error {script} h history said := Or.inl h
  down {script} h history said := by
    rw [Provider.within_of_late h]
    exact h

theorem provider_failures_invisible_late :
    (patientAgent.visits (greeting 31000) (errands noon)).map seen =
        (patientAgent.alone.visits (greeting 31000) (errands noon)).map seen ∧
      List.Forall₂ (AnswerAlike SameDay (30000 < ·.delay))
        (patientAgent.visits (greeting 31000) (errands { noon with minute := 1 }))
        (patientAgent.alone.visits (greeting 31000) (errands noon)) ∧
      (∃ outcome next, patientAgent.handle (.chat "Hi") (greeting 2000) = (.chat .ok "Hello." outcome, next) ∧
        next.conversation.turns = [.user "Hi", .assistant "Hello."] ∧ next.provider.calls = [(0, "Hi")]) ∧
      ∃ outcome, patientAgent.stages (fun _ => greeting 2000) (.chat "Hi") 5 =
        .finished (.chat .ok "Hello." outcome) := by
  obtain ⟨hfails, hhandle, hanswers⟩ := provider_failures_invisible patientAgent (p := Script.provider) rfl
  have hlate : (greeting 31000).provider.delay > patientAgent.policy.replyLimit := by decide
  obtain ⟨hsame, halike⟩ := hfails _ (fails_of_late _) (greeting 31000) hlate
  have hv : ∀ time, Visit.ask time .status ∉ errands noon := by simp [errands]
  have hday : SameDay { noon with minute := 1 } noon := rfl
  have hsameDay : List.Forall₂ (VisitAlike SameDay) (errands { noon with minute := 1 }) (errands noon) := by
    have hask {request : Request} (hr : request ≠ .status) :
        VisitAlike SameDay (.ask { noon with minute := 1 } request) (.ask noon request) := .ask hday hr
    exact .cons (hask nofun) (.cons (hask nofun) (.cons (hask nofun) (.cons (hask nofun) (.cons .fire .nil))))
  have htimely : Script.provider.delay (greeting 2000).conversation.turns "Hi" (greeting 2000).provider ≤
      patientAgent.policy.replyLimit := by decide
  have htext : (Script.provider.complete (greeting 2000).conversation.turns "Hi" (greeting 2000).provider).1 =
      .ok "Hello." := rfl
  obtain ⟨told, next, hnext, hturns, hcalls⟩ := hhandle (greeting 2000) "Hi" "Hello." htimely htext
  obtain ⟨⟨outcome, hfinished⟩, -⟩ := hanswers (fun _ => greeting 2000) "Hi" "Hello." htimely htext
  refine ⟨hsame _ hv, halike _ _ _ hsameDay, ⟨told, next, hnext, ?_, ?_⟩, outcome, hfinished 0⟩
  · rw [hturns]
    decide +kernel
  · rw [hcalls]
    decide +kernel

end Agent

end DeviceAgent
