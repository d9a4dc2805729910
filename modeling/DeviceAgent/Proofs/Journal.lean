import DeviceAgent.Daemon.Basic
import Mathlib.Tactic.Lemma

/-!
# The journal of a run

What the requests of all connections do, noted in the order in which it happens. The shared state follows from
the journal, and the notes of one connection are those of its requests, one after another, whatever the other
connections do in between.
-/

namespace DeviceAgent

/-- Something that a connection does for a request. -/
inductive Note where
  | taken (request : Request)
  /-- The turns so far are looked up for the provider. -/
  | recalled (history : List Turn)
  | consulted (said : String) (history : List Turn)
  | logged (said reply : String)
  | cleared
  | scheduled (action : PowerAction)
  | reported (report : StatusReport)
  | answered (response : Response)

namespace Note

/-- What a note means for the conversation. -/
def converse (c : Conversation) : Note → Conversation
  | .logged said reply => c.appendExchange said reply
  | .cleared => c.clear
  | _ => c

def action? : Note → Option PowerAction
  | .scheduled action => some action
  | _ => none

def request? : Note → Option Request
  | .taken request => some request
  | _ => none

def response? : Note → Option Response
  | .answered response => some response
  | _ => none

/-- A note that neither takes a request nor answers one. -/
def IsInner (note : Note) : Prop := note.request? = none ∧ note.response? = none

end Note

variable {σ π : Type}

/-! ## Noting -/

/-- What is noted when a stage gives way to the next. -/
def Agent.notes (agent : Agent σ π) (s : Agent.State σ π) : Stage → List Note
  | .arrived (.chat _) => if agent.provider.isSome then [.recalled s.conversation.turns] else []
  | .arrived .clear => [.cleared]
  | .consulting said history => if agent.provider.isSome then [.consulted said history] else []
  | .replied said reply _ => [.logged said reply.text]
  | .acting _ intent =>
    (intent.execute agent.backend agent.policy.powerDelay s.spare s.devices).scheduled.toList.map .scheduled
  | .reporting system => [.reported (agent.report s system)]
  | _ => []

/-- What is noted when listening leads to a phase. -/
def Phase.notes : Phase → List Note
  | .serving request _ => [.taken request]
  | _ => []

/-- What is noted when the serving of a connection goes one step further. -/
def Connection.notes (agent : Agent σ π) (c : Connection) (s : Agent.State σ π) : List Note :=
  match c.phase with
  | .polling => (c.listen agent.policy.messageLimit).phase.notes
  | .serving _ (.finished response) => [.answered response]
  | .serving _ stage => if 0 < stage.wait then [] else agent.notes s stage
  | _ => []

namespace Daemon

/-- What is noted at an event, with the connection it is about. -/
def notes (agent : Agent σ π) (d : Daemon σ π) : DaemonEvent → List (Nat × Note)
  | .advance i =>
    match d.connections[i]? with
    | none => []
    | some c => (c.notes agent d.state).map fun note => (i, note)
  | _ => []

def journal (agent : Agent σ π) (d : Daemon σ π) : List DaemonEvent → List (Nat × Note)
  | [] => []
  | event :: events => d.notes agent event ++ (d.step agent event).journal agent events

end Daemon

def notesOn (i : Nat) (journal : List (Nat × Note)) : List Note :=
  journal.filterMap fun entry => if entry.1 = i then some entry.2 else none

@[simp] lemma notesOn_nil (i : Nat) : notesOn i [] = [] := rfl

@[simp] lemma notesOn_append (i : Nat) (j k : List (Nat × Note)) :
    notesOn i (j ++ k) = notesOn i j ++ notesOn i k := List.filterMap_append

lemma notesOn_map (i k : Nat) (notes : List Note) :
    notesOn i (notes.map fun note => (k, note)) = if k = i then notes else [] := by
  unfold notesOn
  rw [List.filterMap_map, Function.comp_def]
  by_cases h : k = i
  · simp [h]
  · simp [h]

namespace Daemon

@[simp] lemma run_nil (agent : Agent σ π) (d : Daemon σ π) : d.run agent [] = d := rfl

lemma run_append (agent : Agent σ π) (d : Daemon σ π) (events more : List DaemonEvent) :
    d.run agent (events ++ more) = (d.run agent events).run agent more := List.foldl_append

/-- What holds of a daemon and a journal and is kept by every event with its notes holds after every run. -/
theorem run_induction (agent : Agent σ π) {P : Daemon σ π → List (Nat × Note) → Prop}
    (step : ∀ d j event, P d j → P (d.step agent event) (j ++ d.notes agent event)) {d : Daemon σ π}
    {j : List (Nat × Note)} (first : P d j) (events : List DaemonEvent) :
    P (d.run agent events) (j ++ d.journal agent events) := by
  induction events generalizing d j with
  | nil =>
    rw [journal, List.append_nil]
    exact first
  | cons event events ih =>
    rw [journal, ← List.append_assoc]
    exact ih (step d j event first)

end Daemon

/-! ## One note at a time -/

lemma Agent.mem_notes {agent : Agent σ π} {s : Agent.State σ π} {stage : Stage} {note : Note}
    (h : note ∈ agent.notes s stage) :
    note = .recalled s.conversation.turns ∨ (∃ system, note = .reported (agent.report s system)) ∨
      note = .cleared ∨ (∃ said history, note = .consulted said history) ∨
      (∃ said reply, note = .logged said reply) ∨ ∃ action, note = .scheduled action := by
  unfold Agent.notes at h
  split at h
  case h_5 =>
    obtain ⟨action, -, rfl⟩ := List.mem_map.mp h
    simp
  case h_6 system =>
    rw [List.mem_singleton.mp h]
    exact Or.inr (Or.inl ⟨system, rfl⟩)
  all_goals
    repeat' split at h
    all_goals simp_all

lemma Agent.length_notes_le (agent : Agent σ π) (s : Agent.State σ π) (stage : Stage) :
    (agent.notes s stage).length ≤ 1 := by
  unfold Agent.notes
  split
  case h_5 =>
    rw [List.length_map]
    cases (Intent.execute agent.backend agent.policy.powerDelay s.spare s.devices _).scheduled <;> simp
  all_goals repeat' split
  all_goals simp

lemma Phase.length_notes_le (phase : Phase) : phase.notes.length ≤ 1 := by
  cases phase <;> simp [Phase.notes]

lemma Connection.length_notes_le (agent : Agent σ π) (c : Connection) (s : Agent.State σ π) :
    (c.notes agent s).length ≤ 1 := by
  unfold Connection.notes
  repeat' split
  all_goals first
    | exact agent.length_notes_le s _
    | exact Phase.length_notes_le _
    | simp

namespace Daemon

lemma length_notes_le (agent : Agent σ π) (d : Daemon σ π) (event : DaemonEvent) :
    (d.notes agent event).length ≤ 1 := by
  unfold Daemon.notes
  repeat' split
  · simp
  · rw [List.length_map]
    exact Connection.length_notes_le _ _ _
  · simp

/-- An entry of a journal is noted at one event, behind what is noted before that. -/
lemma exists_of_journal_eq (agent : Agent σ π) {d : Daemon σ π} {events : List DaemonEvent}
    {before after : List (Nat × Note)} {entry : Nat × Note}
    (h : d.journal agent events = before ++ entry :: after) :
    ∃ past event future, events = past ++ event :: future ∧ before = d.journal agent past ∧
      entry ∈ (d.run agent past).notes agent event := by
  induction events generalizing d before with
  | nil => simp [journal] at h
  | cons event events ih =>
    rw [journal] at h
    have hstep : ∀ past, (d.step agent event).run agent past = d.run agent (event :: past) := fun _ => rfl
    cases hn : d.notes agent event with
    | nil =>
      rw [hn] at h
      obtain ⟨past, next, future, rfl, rfl, he⟩ := ih h
      exact ⟨event :: past, next, future, rfl, by simp [journal, hn], hstep past ▸ he⟩
    | cons first rest =>
      have hl := d.length_notes_le agent event
      obtain rfl : rest = [] := by simpa [hn] using hl
      rw [hn] at h
      cases before with
      | nil =>
        obtain ⟨rfl, -⟩ := List.cons.inj h
        exact ⟨[], event, events, rfl, rfl, by simp [hn]⟩
      | cons first' before =>
        obtain ⟨rfl, hrest⟩ := List.cons.inj h
        obtain ⟨past, next, future, rfl, rfl, he⟩ := ih hrest
        exact ⟨event :: past, next, future, rfl, by simp [journal, hn], hstep past ▸ he⟩

end Daemon

/-! ## The shared state -/

lemma Agent.conversation_advance (agent : Agent σ π) (s : Agent.State σ π) (stage : Stage) :
    (agent.advance s stage).2.conversation = (agent.notes s stage).foldl Note.converse s.conversation := by
  cases stage with
  | arrived request =>
    cases request with
    | chat said =>
      simp only [advance, start, notes]
      split <;> rfl
    | action value =>
      simp only [advance, start, notes]
      split <;> rfl
    | status => rfl
    | clear => rfl
  | consulting said history =>
    simp only [advance, consult, notes]
    cases agent.provider <;> rfl
  | awaiting said completion wait => rfl
  | interpreting said => rfl
  | replied said reply remote =>
    simp only [advance, log, notes]
    repeat' split
    all_goals rfl
  | acting response intent =>
    simp only [advance, act, notes]
    cases (intent.execute agent.backend agent.policy.powerDelay s.spare s.devices).scheduled <;> rfl
  | reporting system => rfl
  | finished response => rfl

lemma Agent.scheduled_advance (agent : Agent σ π) (s : Agent.State σ π) (stage : Stage) :
    (agent.advance s stage).2.scheduled = s.scheduled ++ (agent.notes s stage).filterMap Note.action? := by
  cases stage with
  | arrived request =>
    cases request with
    | chat said =>
      simp only [advance, start, notes]
      split <;> simp [Note.action?]
    | action value =>
      simp only [advance, start, notes]
      split <;> simp
    | status => simp [advance, start, notes]
    | clear => simp [advance, start, notes, Note.action?]
  | consulting said history =>
    simp only [advance, consult, notes]
    cases agent.provider <;> simp [Note.action?]
  | awaiting said completion wait => simp [advance, notes]
  | interpreting said => simp [advance, interpret, notes]
  | replied said reply remote =>
    simp only [advance, log, notes]
    repeat' split
    all_goals simp [Note.action?]
  | acting response intent =>
    simp only [advance, act, notes]
    cases (intent.execute agent.backend agent.policy.powerDelay s.spare s.devices).scheduled <;> simp [Note.action?]
  | reporting system => simp [advance, notes, Note.action?]
  | finished response => simp [advance, notes]

namespace Connection

/-- A connection takes the request of a frame, or closes. -/
lemma take_cases (limit : Nat) (c : Connection) :
    (∃ payload rest request, Frame.read limit c.incoming = ⟨.ok (some payload), rest⟩ ∧
      Request.decode? payload = some request ∧
      c.take limit = { c with incoming := rest, phase := .serving request (.arrived request) }) ∨
    ((∀ payload, (Frame.read limit c.incoming).outcome = .ok (some payload) → Request.decode? payload = none) ∧
      c.take limit = { c with incoming := (Frame.read limit c.incoming).rest, phase := .closed }) := by
  unfold Connection.take
  split
  · rename_i payload rest hr
    cases hd : Request.decode? payload with
    | some request => exact Or.inl ⟨payload, rest, request, hr, hd, rfl⟩
    | none =>
      refine Or.inr ⟨?_, by rw [hr]⟩
      intro payload' hp
      rw [hr] at hp
      obtain rfl : payload = payload' := by simpa using hp
      exact hd
  · rename_i outcome rest hn hr
    refine Or.inr ⟨?_, by rw [hr]⟩
    intro payload hp
    rw [hr] at hp
    exact (hn payload hp).elim

lemma advance_finished (agent : Agent σ π) (stopping : Bool) {c : Connection} {request : Request}
    {response : Response} (hp : c.phase = .serving request (.finished response)) (s : Agent.State σ π) :
    c.advance agent stopping s = (c.write agent.policy.messageLimit response, s) ∧
      c.notes agent s = [.answered response] := by
  simp [advance, notes, hp]

/-- A request that is not finished waits, or goes on to its next stage. -/
lemma advance_serving (agent : Agent σ π) (stopping : Bool) {c : Connection} {request : Request} {stage : Stage}
    (hp : c.phase = .serving request stage) (hf : ∀ response, stage ≠ .finished response)
    (s : Agent.State σ π) :
    (0 < stage.wait ∧ c.advance agent stopping s = (c, s) ∧ c.notes agent s = []) ∨
    (stage.wait = 0 ∧ c.advance agent stopping s =
        ({ c with phase := .serving request (agent.advance s stage).1 }, (agent.advance s stage).2) ∧
      c.notes agent s = agent.notes s stage) := by
  by_cases hw : 0 < stage.wait
  · left
    cases stage with
    | finished response => exact (hf response rfl).elim
    | _ => exact ⟨hw, by simp [advance, hp, hw], by simp [notes, hp, hw]⟩
  · right
    cases stage with
    | finished response => exact (hf response rfl).elim
    | _ => exact ⟨Nat.eq_zero_of_not_pos hw, by simp [advance, hp, hw], by simp [notes, hp, hw]⟩

/-- A step of serving a connection is about its frames and leaves the state alone, or is the next stage of its
request. -/
lemma advance_cases (agent : Agent σ π) (stopping : Bool) (c : Connection) (s : Agent.State σ π) :
    ((c.advance agent stopping s).2 = s ∧
      (c.notes agent s = [] ∨ (∃ r, c.notes agent s = [.taken r]) ∨
        ∃ r, c.notes agent s = [.answered r])) ∨
    ∃ request stage, c.phase = .serving request stage ∧ c.notes agent s = agent.notes s stage ∧
      (c.advance agent stopping s).2 = (agent.advance s stage).2 := by
  cases hp : c.phase with
  | checking =>
    left
    simp [advance, notes, hp]
  | waiting =>
    left
    simp [advance, notes, hp]
  | polling =>
    left
    simp only [advance, notes, hp, true_and]
    cases (c.listen agent.policy.messageLimit).phase with
    | serving request stage => exact Or.inr (Or.inl ⟨request, rfl⟩)
    | _ => exact Or.inl rfl
  | closed =>
    left
    simp [advance, notes, hp]
  | serving request stage =>
    by_cases hf : ∃ response, stage = .finished response
    · obtain ⟨response, rfl⟩ := hf
      obtain ⟨ha, hn⟩ := c.advance_finished agent stopping hp s
      exact Or.inl ⟨congrArg Prod.snd ha, Or.inr (Or.inr ⟨response, hn⟩)⟩
    · obtain ⟨-, ha, hn⟩ | ⟨-, ha, hn⟩ := c.advance_serving agent stopping hp (not_exists.mp hf) s
      · exact Or.inl ⟨congrArg Prod.snd ha, Or.inl hn⟩
      · exact Or.inr ⟨request, stage, rfl, hn, congrArg Prod.snd ha⟩

lemma conversation_advance (agent : Agent σ π) (stopping : Bool) (c : Connection) (s : Agent.State σ π) :
    (c.advance agent stopping s).2.conversation =
      (c.notes agent s).foldl Note.converse s.conversation := by
  obtain ⟨hs, hn | ⟨r, hn⟩ | ⟨r, hn⟩⟩ | ⟨request, stage, -, hn, hs⟩ := c.advance_cases agent stopping s
  · rw [hs, hn, List.foldl_nil]
  · rw [hs, hn]
    rfl
  · rw [hs, hn]
    rfl
  · rw [hs, hn]
    exact agent.conversation_advance s stage

lemma scheduled_advance (agent : Agent σ π) (stopping : Bool) (c : Connection) (s : Agent.State σ π) :
    (c.advance agent stopping s).2.scheduled =
      s.scheduled ++ (c.notes agent s).filterMap Note.action? := by
  obtain ⟨hs, hn | ⟨r, hn⟩ | ⟨r, hn⟩⟩ | ⟨request, stage, -, hn, hs⟩ := c.advance_cases agent stopping s
  · simp [hs, hn]
  · simp [hs, hn, Note.action?]
  · simp [hs, hn, Note.action?]
  · rw [hs, hn]
    exact agent.scheduled_advance s stage

end Connection

namespace Daemon

/-- An event changes the state when a connection goes one step further or a power action takes place, apart from the
clock and the threads that the system has to spare. -/
lemma state_step (agent : Agent σ π) (d : Daemon σ π) (event : DaemonEvent) :
    ((∃ clock spare, (d.step agent event).state = { d.state with clock := clock, spare := spare }) ∧
      d.notes agent event = []) ∨
    (event = .fire ∧ (d.step agent event).state = agent.fire d.state ∧ d.notes agent event = []) ∨
    ∃ i c, event = .advance i ∧ d.connections[i]? = some c ∧
      (d.step agent event).state = (c.advance agent d.isStopping d.state).2 ∧
      d.notes agent event = (c.notes agent d.state).map fun note => (i, note) := by
  have hsame (h : (d.step agent event).state = d.state) :
      ∃ clock spare, (d.step agent event).state = { d.state with clock := clock, spare := spare } :=
    ⟨d.state.clock, d.state.spare, h⟩
  cases event with
  | fire => exact Or.inr (Or.inl ⟨rfl, rfl, rfl⟩)
  | advance i =>
    cases hc : d.connections[i]? with
    | none => exact Or.inl ⟨hsame (by simp [step, Daemon.advance, hc]), by simp [notes, hc]⟩
    | some c =>
      right; right
      exact ⟨i, c, rfl, hc, by simp [step, Daemon.advance, hc], by simp [notes, hc]⟩
  | accept =>
    refine Or.inl ⟨hsame ?_, rfl⟩
    simp only [step]
    split <;> rfl
  | listen removable =>
    refine Or.inl ⟨hsame ?_, rfl⟩
    simp only [step, Daemon.listen]
    repeat' split
    all_goals rfl
  | raise =>
    refine Or.inl ⟨hsame ?_, rfl⟩
    simp only [step]
    split <;> rfl
  | lose =>
    refine Or.inl ⟨hsame ?_, rfl⟩
    simp only [step]
    split <;> rfl
  | tick clock => exact Or.inl ⟨⟨clock, d.state.spare, rfl⟩, rfl⟩
  | crowd spare => exact Or.inl ⟨⟨d.state.clock, spare, rfl⟩, rfl⟩
  | _ => exact Or.inl ⟨hsame rfl, rfl⟩

lemma conversation_fire (agent : Agent σ π) (s : Agent.State σ π) :
    (agent.fire s).conversation = s.conversation := by
  unfold Agent.fire
  split <;> rfl

/-- The conversation after a run is what its journal makes of the one before it. -/
theorem conversation_run (agent : Agent σ π) (d : Daemon σ π) (events : List DaemonEvent) :
    (d.run agent events).state.conversation =
      ((d.journal agent events).map Prod.snd).foldl Note.converse d.state.conversation := by
  induction events generalizing d with
  | nil => rfl
  | cons event events ih =>
    have hstep : (d.step agent event).state.conversation =
        ((d.notes agent event).map Prod.snd).foldl Note.converse d.state.conversation := by
      obtain ⟨⟨clock, spare, hs⟩, hn⟩ | ⟨-, hs, hn⟩ | ⟨i, c, -, -, hs, hn⟩ := d.state_step agent event
      · rw [hs, hn]
        rfl
      · rw [hs, hn, conversation_fire]
        rfl
      · rw [hs, hn, c.conversation_advance]
        simp [List.map_map, Function.comp_def]
    have hrun : d.run agent (event :: events) = (d.step agent event).run agent events := rfl
    rw [hrun, ih, journal, List.map_append, List.foldl_append, hstep]

end Daemon

end DeviceAgent
