import DeviceAgent.Proofs.ConnectionFold
import DeviceAgent.Proofs.Handling
import Mathlib.Data.List.Induction

/-!
# Stopping

A daemon that is told to stop looks for no further frame, but a connection that has just looked for the signal in vain
still looks for a frame once. The request that a connection is at, or takes then, comes to its end and is answered, and
when all connections are closed the listener returns, after it has tried to remove its socket.
-/

namespace DeviceAgent

variable {σ π : Type}

/-! ## Connections of a daemon that stops -/

/-- A phase in which a connection is not served yet, nor about to look for a frame. -/
def Phase.IsIdle : Phase → Prop
  | .serving _ _ | .polling => False
  | _ => True

namespace Connection

lemma phase_of_isClosed {c : Connection} (h : c.isClosed = true) : c.phase = .closed := by
  unfold isClosed at h
  split at h
  · assumption
  · simp at h

lemma isClosed_of_phase {c : Connection} (h : c.phase = .closed) : c.isClosed = true := by
  simp [isClosed, h]

lemma phase_elapse {c : Connection} (h : ∀ request stage, c.phase ≠ .serving request stage) (ms : Nat) :
    (c.elapse ms).phase = c.phase := by
  unfold elapse
  cases hp : c.phase with
  | serving request stage => exact absurd hp (h request stage)
  | _ => exact hp

lemma phase_elapse_of_isIdle {c : Connection} (h : c.phase.IsIdle) (ms : Nat) : (c.elapse ms).phase = c.phase :=
  phase_elapse (fun request stage hp => by simp [hp, Phase.IsIdle] at h) ms

lemma phase_meet_of_closed {c : Connection} (h : c.phase = .closed) (agent : Agent σ π) (stopping : Bool)
    (s : Agent.State σ π) (i : Nat) (event : DaemonEvent) : (c.meet agent stopping s i event).phase = .closed := by
  obtain ⟨hmeet, -⟩ | ⟨⟨ms, hmeet⟩, -⟩ := c.meet_cases agent stopping s i event
  · rw [hmeet]
    simp [advance, h]
  · rw [hmeet, phase_elapse_of_isIdle (by simp [h, Phase.IsIdle]), h]

/-- An idle connection that is served when the daemon stops closes, and nothing is noted. -/
lemma advance_stopping {c : Connection} (h : c.phase.IsIdle) (agent : Agent σ π) (s : Agent.State σ π) :
    (c.advance agent true s).1.phase = .closed ∧ c.notes agent s = [] := by
  cases hp : c.phase with
  | serving request stage => simp [hp, Phase.IsIdle] at h
  | polling => simp [hp, Phase.IsIdle] at h
  | _ => simp [advance, notes, heed, hp]

/-- A connection that looks for a frame takes its request, or is idle and nothing is noted. -/
lemma advance_polling {c : Connection} (hp : c.phase = .polling) (agent : Agent σ π) (stopping : Bool)
    (s : Agent.State σ π) :
    ((c.advance agent stopping s).1.phase.IsIdle ∧ c.notes agent s = []) ∨
      ∃ request, (c.advance agent stopping s).1.phase = .serving request (.arrived request) ∧
        c.notes agent s = [.taken request] := by
  have hadvance : (c.advance agent stopping s).1 = c.listen agent.policy.messageLimit := by simp only [advance, hp]
  have hnotes : c.notes agent s = (c.listen agent.policy.messageLimit).phase.notes := by simp only [notes, hp]
  rw [hadvance, hnotes]
  obtain hl | hl | ⟨request, hl⟩ := c.phase_listen agent.policy.messageLimit
  · exact Or.inl ⟨hl ▸ trivial, hl ▸ rfl⟩
  · exact Or.inl ⟨hl ▸ trivial, hl ▸ rfl⟩
  · exact Or.inr ⟨request, hl, hl ▸ rfl⟩

end Connection

namespace Agent

/-- What is noted for a request, up to where a connection is in a phase of it: its course is not at an end, or it is
answered. -/
def Finishes (agent : Agent σ π) (request : Request) (notes : List Note) (phase : Phase) : Prop :=
  match phase with
  | .serving r stage => r = request ∧ agent.Course request notes stage
  | .polling => False
  | _ => ∃ now response, agent.Handled request now response ∧ notes = now ++ [.answered response]

/-- A daemon that stops goes on with the request that a connection is at, and with no other. -/
lemma Finishes.advance {agent : Agent σ π} {request : Request} {notes : List Note} {c : Connection}
    (h : agent.Finishes request notes c.phase) (s : Agent.State σ π) :
    agent.Finishes request (notes ++ c.notes agent s) (c.advance agent true s).1.phase := by
  cases hp : c.phase with
  | serving r stage =>
    rw [hp] at h
    obtain ⟨rfl, hcourse⟩ := h
    obtain ⟨response, hhandled, hn, hphase⟩ | ⟨next, hphase, hnext⟩ := hcourse.serve hp true s
    · obtain hphase | hphase := hphase
      · rw [hphase, hn]
        exact ⟨notes, response, hhandled, rfl⟩
      · rw [hphase, hn]
        exact ⟨notes, response, hhandled, rfl⟩
    · rw [hphase]
      exact ⟨rfl, hnext⟩
  | polling =>
    rw [hp] at h
    exact h.elim
  | _ =>
    obtain ⟨hphase, hnotes⟩ := c.advance_stopping (by simp [hp, Phase.IsIdle]) agent s
    rw [hp] at h
    rw [hphase, hnotes, List.append_nil]
    exact h

lemma Finishes.elapse {agent : Agent σ π} {request : Request} {notes : List Note} {c : Connection}
    (h : agent.Finishes request notes c.phase) (ms : Nat) : agent.Finishes request notes (c.elapse ms).phase := by
  unfold Connection.elapse
  cases hp : c.phase with
  | serving r stage =>
    rw [hp] at h
    obtain ⟨rfl, hcourse⟩ := h
    exact ⟨rfl, hcourse.elapse ms⟩
  | _ =>
    rw [hp] at h
    simpa only [hp] using h

/-- What is noted for a request, and is to be noted, is the transcript of one handling of it. -/
lemma Finishes.exists_handling {agent : Agent σ π} {request : Request} {notes : List Note} {phase : Phase}
    (h : agent.Finishes request notes phase) :
    ∃ last : Handling, agent.Allows last ∧ last.transcript = .taken request :: notes := by
  cases phase with
  | serving r stage =>
    obtain ⟨rfl, hcourse⟩ := h
    exact ⟨⟨r, notes, none⟩, ⟨stage, hcourse⟩, by simp [Handling.transcript]⟩
  | polling => exact h.elim
  | _ =>
    obtain ⟨now, response, hhandled, rfl⟩ := h
    exact ⟨⟨request, now, some response⟩, hhandled, by simp [Handling.transcript]⟩

end Agent

/-! ## After the signal -/

namespace Daemon

lemma signal_step_of_raised (agent : Agent σ π) {d : Daemon σ π} (h : d.signal = .raised) (event : DaemonEvent) :
    (d.step agent event).signal = .raised := by
  obtain hs | ⟨hs, -⟩ | ⟨hs, -⟩ := d.signal_step agent event
  · rw [hs, h]
  · simp [h] at hs
  · simp [h] at hs

lemma isStopping_of_raised {d : Daemon σ π} (h : d.signal = .raised) : d.isStopping = true := by
  simp [isStopping, h]

/-- A connection that is idle when the daemon stops, or that is accepted after that, comes to no request. -/
lemma notesOn_of_idle (agent : Agent σ π) {d : Daemon σ π} (h : d.signal = .raised) {i : Nat}
    (hi : ∀ c, d.connections[i]? = some c → c.phase.IsIdle) (more : List DaemonEvent) :
    notesOn i (d.journal agent more) = [] := by
  induction more generalizing d with
  | nil => rfl
  | cons event more ih =>
    rw [journal, notesOn_append, notesOn_notes]
    have hraised := signal_step_of_raised agent h event
    cases hc : d.connections[i]? with
    | none =>
      -- It may be accepted now, as the listener has not seen the signal yet.
      have hnext : ∀ c, (d.step agent event).connections[i]? = some c → c.phase.IsIdle := by
        obtain hn | ⟨-, hn⟩ := getElem?_step_none agent hc event
        · simp [hn]
        · simp [hn, Connection.opened, Phase.IsIdle]
      rw [ih hraised hnext]
      rfl
    | some c =>
      have hidle := hi c hc
      have hstep := getElem?_step agent hc event
      rw [isStopping_of_raised h] at hstep
      rw [Option.map_some, Option.getD_some]
      obtain ⟨hmeet, hnoted⟩ | ⟨⟨ms, hmeet⟩, hnoted⟩ := c.meet_cases agent true d.state i event
      · obtain ⟨hphase, hnotes⟩ := c.advance_stopping hidle agent d.state
        have hnext : ∀ c, (d.step agent event).connections[i]? = some c → c.phase.IsIdle := by
          simp [hstep, hmeet, hphase, Phase.IsIdle]
        rw [hnoted, hnotes, ih hraised hnext]
        rfl
      · have hnext : ∀ c, (d.step agent event).connections[i]? = some c → c.phase.IsIdle := by
          simp [hstep, hmeet, c.phase_elapse_of_isIdle hidle, hidle]
        rw [hnoted, ih hraised hnext]
        rfl

lemma finishes_of_serving (agent : Agent σ π) {d : Daemon σ π} (h : d.signal = .raised) {i : Nat} {c : Connection}
    (hi : d.connections[i]? = some c) {request : Request} {notes : List Note}
    (hf : agent.Finishes request notes c.phase) (more : List DaemonEvent) :
    ∃ phase, agent.Finishes request (notes ++ notesOn i (d.journal agent more)) phase := by
  induction more generalizing d c notes with
  | nil => exact ⟨c.phase, by simpa [journal] using hf⟩
  | cons event more ih =>
    have hraised := signal_step_of_raised agent h event
    have hstep := getElem?_step agent hi event
    rw [journal, notesOn_append, notesOn_notes, hi, ← List.append_assoc]
    rw [isStopping_of_raised h] at hstep
    rw [Option.map_some, Option.getD_some]
    obtain ⟨hmeet, hnoted⟩ | ⟨⟨ms, hmeet⟩, hnoted⟩ := c.meet_cases agent true d.state i event
    · have hnext := hf.advance d.state
      rw [← hmeet, ← hnoted] at hnext
      exact ih hraised hstep hnext
    · have hnext := hf.elapse ms
      rw [← hmeet] at hnext
      rw [hnoted, List.append_nil]
      exact ih hraised hstep hnext

/-- A connection that is about to look for a frame when the daemon stops comes to no request, or to one that it finds
then. -/
lemma notesOn_of_polling (agent : Agent σ π) {d : Daemon σ π} (h : d.signal = .raised) {i : Nat} {c : Connection}
    (hi : d.connections[i]? = some c) (hp : c.phase = .polling) (more : List DaemonEvent) :
    notesOn i (d.journal agent more) = [] ∨
      ∃ last : Handling, agent.Allows last ∧ notesOn i (d.journal agent more) = last.transcript := by
  induction more generalizing d c with
  | nil => exact Or.inl rfl
  | cons event more ih =>
    have hraised := signal_step_of_raised agent h event
    have hstep := getElem?_step agent hi event
    rw [journal, notesOn_append, notesOn_notes, hi, Option.map_some, Option.getD_some]
    obtain ⟨hmeet, hnoted⟩ | ⟨⟨ms, hmeet⟩, hnoted⟩ := c.meet_cases agent d.isStopping d.state i event
    · rw [hmeet] at hstep
      rw [hnoted]
      obtain ⟨hidle, hnotes⟩ | ⟨request, hphase, hnotes⟩ := c.advance_polling hp agent d.isStopping d.state
      · left
        rw [hnotes, notesOn_of_idle agent hraised (by simp [hstep, hidle]) more]
        rfl
      · right
        have hfinishes : agent.Finishes request [] (c.advance agent d.isStopping d.state).1.phase := by
          rw [hphase]
          exact ⟨rfl, rfl, rfl⟩
        obtain ⟨phase, hlater⟩ := finishes_of_serving agent hraised hstep hfinishes more
        obtain ⟨last, hallows, htranscript⟩ := hlater.exists_handling
        refine ⟨last, hallows, ?_⟩
        rw [hnotes, htranscript]
        rfl
    · have hstill : (c.meet agent d.isStopping d.state i event).phase = .polling := by
        rw [hmeet, Connection.phase_elapse (by simp [hp]), hp]
      rw [hnoted, List.nil_append]
      exact ih hraised hstep hstill

/-! ## The listener -/

/-- The listener moves when it takes note of the signal, or of the last connection. -/
lemma listener_step (agent : Agent σ π) (d : Daemon σ π) (event : DaemonEvent) :
    let next := d.step agent event
    (next.listener = d.listener ∧ next.socket = d.socket) ∨
    (d.listener = .accepting ∧ d.signal ≠ .pending ∧ next.listener = .draining ∧
      ∃ removable, event = .listen removable ∧ next.socket = (d.socket && ! removable)) ∨
    (d.listener = .draining ∧ d.isIdle = true ∧ next.listener = .returned ∧ next.socket = d.socket ∧
      next.connections = d.connections) := by
  cases event with
  | accept =>
    left
    simp only [step]
    split <;> exact ⟨rfl, rfl⟩
  | advance k =>
    left
    simp only [step, Daemon.advance]
    split <;> exact ⟨rfl, rfl⟩
  | raise =>
    left
    simp only [step]
    split <;> exact ⟨rfl, rfl⟩
  | lose =>
    left
    simp only [step]
    split <;> exact ⟨rfl, rfl⟩
  | listen removable =>
    simp only [step, Daemon.listen]
    split
    · next hl =>
      split
      · exact Or.inl ⟨rfl, rfl⟩
      · next hs => exact Or.inr (Or.inl ⟨hl, hs, rfl, removable, rfl, rfl⟩)
    · next hl =>
      split
      · next hidle => exact Or.inr (Or.inr ⟨hl, hidle, rfl, rfl, rfl⟩)
      · exact Or.inl ⟨rfl, rfl⟩
    · exact Or.inl ⟨rfl, rfl⟩
  | _ => exact Or.inl ⟨rfl, rfl⟩

lemma isIdle_iff {d : Daemon σ π} :
    d.isIdle = true ↔ ∀ (i : Nat) (c : Connection), d.connections[i]? = some c → c.phase = .closed := by
  unfold isIdle
  rw [List.all_eq_true]
  constructor
  · intro h i c hc
    exact Connection.phase_of_isClosed (h c (List.mem_of_getElem? hc))
  · intro h c hc
    obtain ⟨i, hi⟩ := List.getElem?_of_mem hc
    exact Connection.isClosed_of_phase (h i c hi)

/-- All connections are closed when the listener returns, and none is there later. -/
lemma closed_of_returned (agent : Agent σ π) (s : Agent.State σ π) (events : List DaemonEvent)
    (h : ((started s).run agent events).listener = .returned) : ((started s).run agent events).isIdle = true := by
  have hstep : ∀ (d : Daemon σ π) (journal : List (Nat × Note)) (event : DaemonEvent),
      (d.listener = .returned → d.isIdle = true) →
        (d.step agent event).listener = .returned → (d.step agent event).isIdle = true := by
    intro d _ event hd hreturned
    obtain ⟨hl, -⟩ | ⟨-, -, hl, -⟩ | ⟨-, hidle, -, -, hc⟩ := d.listener_step agent event
    · rw [hl] at hreturned
      rw [isIdle_iff]
      intro i next hn
      cases hc : d.connections[i]? with
      | none =>
        obtain hnone | ⟨ha, -⟩ := getElem?_step_none agent hc event
        · rw [hnone] at hn
          simp at hn
        · rw [hreturned] at ha
          exact ListenerPhase.noConfusion ha
      | some c =>
        rw [getElem?_step agent hc event] at hn
        rw [← Option.some.inj hn]
        exact Connection.phase_meet_of_closed (isIdle_iff.mp (hd hreturned) i c hc) _ _ _ _ _
    · rw [hl] at hreturned
      exact ListenerPhase.noConfusion hreturned
    · rw [isIdle, hc]
      exact hidle
  exact run_induction agent (P := fun d _ => d.listener = .returned → d.isIdle = true) hstep (j := [])
    (fun h => ListenerPhase.noConfusion h) events h

/-- A listener that accepts no more has tried once to remove its socket, and the socket is there if that failed. -/
lemma removal_of_run (agent : Agent σ π) (s : Agent.State σ π) (events : List DaemonEvent) :
    let d := (started s).run agent events
    (d.listener = .accepting ∧ d.socket = true) ∨
    (d.listener ≠ .accepting ∧ ∃ past removable future, events = past ++ .listen removable :: future ∧
      ((started s).run agent past).listener = .accepting ∧ d.socket = ! removable) := by
  induction events using List.reverseRecOn with
  | nil => exact Or.inl ⟨rfl, rfl⟩
  | append_singleton events event ih =>
    intro d
    have hd : d = ((started s).run agent events).step agent event := run_append agent _ events [event]
    rw [hd]
    obtain ⟨hl, hs⟩ | ⟨ha, -, hl, removable, rfl, hs⟩ | ⟨hdraining, -, hl, hs, -⟩ :=
      ((started s).run agent events).listener_step agent event
    · rw [hl, hs]
      obtain hopen | ⟨hclosed, past, removable, future, hevents, hpast, hsocket⟩ := ih
      · exact Or.inl hopen
      · exact Or.inr ⟨hclosed, past, removable, future ++ [event], by simp [hevents], hpast, hsocket⟩
    · right
      obtain ⟨-, hsocket⟩ | ⟨hclosed, -⟩ := ih
      · refine ⟨by simp [hl], events, removable, [], rfl, ha, ?_⟩
        rw [hs, hsocket, Bool.true_and]
      · exact absurd ha hclosed
    · right
      obtain ⟨hopen, -⟩ | ⟨-, past, removable, future, hevents, hpast, hsocket⟩ := ih
      · rw [hopen] at hdraining
        exact ListenerPhase.noConfusion hdraining
      · exact ⟨by simp [hl], past, removable, future ++ [event], by simp [hevents], hpast, by rw [hs, hsocket]⟩

end Daemon

/-! ## Coming to an end -/

/-- An event that serves a connection, lets time pass or lets the listener take note. -/
def DaemonEvent.IsPace : DaemonEvent → Prop
  | .advance _ | .elapse _ | .listen _ => True
  | _ => False

namespace Connection

/-- A bound on the steps that a connection takes when the daemon stops. -/
def labour (c : Connection) : Nat :=
  match c.phase with
  | .closed => 0
  | .serving _ stage => 2 + stage.remaining
  | .polling => 9
  | _ => 1

@[simp]
lemma labour_elapse (ms : Nat) (c : Connection) : (c.elapse ms).labour = c.labour := by
  unfold labour elapse
  cases hp : c.phase <;> simp [hp]

lemma labour_advance (agent : Agent σ π) {c : Connection} (hp : c.phase ≠ .closed) (hw : c.wait = 0)
    (s : Agent.State σ π) : (c.advance agent true s).1.labour < c.labour := by
  cases hphase : c.phase with
  | closed => exact (hp hphase).elim
  | polling =>
    have hadvance : (c.advance agent true s).1 = c.listen agent.policy.messageLimit := by simp only [advance, hphase]
    rw [hadvance]
    unfold labour
    obtain hl | hl | ⟨request, hl⟩ := c.phase_listen agent.policy.messageLimit
    · simp [hl, hphase]
    · simp [hl, hphase]
    · simp [hl, hphase, Stage.remaining]
  | serving request stage =>
    have hwait : stage.wait = 0 := by simpa [wait, hphase] using hw
    by_cases hf : ∃ response, stage = .finished response
    · obtain ⟨response, rfl⟩ := hf
      rw [(c.advance_finished agent true hphase s).1]
      unfold labour
      obtain hnext | hnext := c.phase_write agent.policy.messageLimit response
      · simp [hnext, hphase, Stage.remaining]
      · simp [hnext, hphase, Stage.remaining]
    · obtain ⟨hpos, -⟩ | ⟨-, ha, -⟩ := c.advance_serving agent true hphase (not_exists.mp hf) s
      · omega
      · have hpos := Stage.remaining_pos (not_exists.mp hf)
        have hremaining := agent.remaining_advance s stage
        rw [ha]
        simp only [labour, hphase]
        omega
  | _ =>
    obtain ⟨hclosed, -⟩ := c.advance_stopping (by simp [hphase, Phase.IsIdle]) agent s
    unfold labour
    rw [hclosed, hphase]
    exact Nat.one_pos

end Connection

namespace Daemon

lemma closed_run (agent : Agent σ π) {d : Daemon σ π} {i : Nat} {c : Connection} (hi : d.connections[i]? = some c)
    (hc : c.phase = .closed) (more : List DaemonEvent) :
    ∃ last, (d.run agent more).connections[i]? = some last ∧ last.phase = .closed := by
  induction more generalizing d c with
  | nil => exact ⟨c, hi, hc⟩
  | cons event more ih =>
    have hnext := c.phase_meet_of_closed hc agent d.isStopping d.state i event
    exact ih (getElem?_step agent hi event) hnext

lemma signal_run_of_raised (agent : Agent σ π) {d : Daemon σ π} (h : d.signal = .raised) (more : List DaemonEvent) :
    (d.run agent more).signal = .raised := by
  induction more generalizing d with
  | nil => exact h
  | cons event more ih => exact ih (signal_step_of_raised agent h event)

lemma length_run_of_pace (agent : Agent σ π) (d : Daemon σ π) {more : List DaemonEvent}
    (hm : ∀ event ∈ more, event.IsPace) : (d.run agent more).connections.length = d.connections.length := by
  induction more generalizing d with
  | nil => rfl
  | cons event more ih =>
    have hstep : (d.step agent event).connections.length = d.connections.length := by
      have hpace := hm event List.mem_cons_self
      cases event with
      | advance k =>
        simp only [step, Daemon.advance]
        split
        · rfl
        · exact List.length_set
      | elapse ms => exact List.length_map _
      | listen removable =>
        simp only [step, Daemon.listen]
        repeat' split
        all_goals rfl
      | _ => exact hpace.elim
    have hrest := ih (d.step agent event) fun event he => hm event (List.mem_cons_of_mem _ he)
    exact hrest.trans hstep

lemma exists_closed (agent : Agent σ π) {d : Daemon σ π} (h : d.signal = .raised) {i : Nat} {c : Connection}
    (hi : d.connections[i]? = some c) :
    ∃ more, (∀ event ∈ more, event.IsPace) ∧
      ∃ last, (d.run agent more).connections[i]? = some last ∧ last.phase = .closed := by
  -- Time passes until the request at hand can go on, and then it does, so the induction is on the labour that is left.
  induction hn : c.labour using Nat.strongRecOn generalizing d c with
  | ind n ih =>
    by_cases hp : c.phase = .closed
    · exact ⟨[], by simp, c, hi, hp⟩
    · have hraised := signal_run_of_raised agent h [.elapse c.wait, .advance i]
      have helapse := getElem?_step agent hi (.elapse c.wait)
      have hadvance := getElem?_step agent helapse (.advance i)
      rw [isStopping_of_raised (signal_step_of_raised agent h _)] at hadvance
      simp only [Connection.meet, if_pos] at hadvance
      have hopen : (c.elapse c.wait).phase ≠ .closed := by
        unfold Connection.elapse
        cases hphase : c.phase with
        | closed => exact (hp hphase).elim
        | _ => simp [hphase]
      have hless := (c.elapse c.wait).labour_advance agent hopen (by simp) (d.step agent (.elapse c.wait)).state
      rw [c.labour_elapse, hn] at hless
      obtain ⟨more, hm, hlast⟩ := ih _ hless hraised hadvance rfl
      refine ⟨[.elapse c.wait, .advance i] ++ more, ?_, ?_⟩
      · simpa [DaemonEvent.IsPace] using hm
      · rw [run_append]
        exact hlast

lemma exists_closed_below (agent : Agent σ π) {d : Daemon σ π} (h : d.signal = .raised) (n : Nat) :
    ∃ more, (∀ event ∈ more, event.IsPace) ∧ ∀ i < n, ∀ (c : Connection),
      (d.run agent more).connections[i]? = some c → c.phase = .closed := by
  -- The connections are closed in their order; those that are closed stay so while the next one is served.
  induction n with
  | zero => exact ⟨[], by simp, by simp⟩
  | succ n ih =>
    obtain ⟨first, hfirst, hbelow⟩ := ih
    have hraised := signal_run_of_raised agent h first
    have hstay : ∀ more, (∀ event ∈ more, event.IsPace) → ∀ i < n, ∀ (c : Connection),
        ((d.run agent first).run agent more).connections[i]? = some c → c.phase = .closed := by
      intro more hm i hi c hc
      have hlt := (List.getElem?_eq_some_iff.mp hc).1
      rw [length_run_of_pace agent _ hm] at hlt
      have hhere := List.getElem?_eq_getElem hlt
      obtain ⟨last, hlast, hclosed⟩ := closed_run agent hhere (hbelow i hi _ hhere) more
      rw [hlast] at hc
      rw [← Option.some.inj hc]
      exact hclosed
    cases hn : (d.run agent first).connections[n]? with
    | none =>
      refine ⟨first, hfirst, ?_⟩
      intro i hi c hc
      obtain hlt | rfl := Nat.lt_succ_iff_lt_or_eq.mp hi
      · exact hbelow i hlt c hc
      · rw [hn] at hc
        exact (Option.some_ne_none c hc.symm).elim
    | some c =>
      obtain ⟨more, hm, last, hlast, hclosed⟩ := exists_closed agent hraised hn
      refine ⟨first ++ more, ?_, ?_⟩
      · intro event he
        obtain he | he := List.mem_append.mp he
        · exact hfirst event he
        · exact hm event he
      · rw [run_append]
        intro i hi c hc
        obtain hlt | rfl := Nat.lt_succ_iff_lt_or_eq.mp hi
        · exact hstay more hm i hlt c hc
        · rw [hlast] at hc
          rw [← Option.some.inj hc]
          exact hclosed

lemma returned_of_isIdle {d : Daemon σ π} (h : d.signal = .raised) (hidle : d.isIdle = true) :
    ((d.listen true).listen true).listener = .returned := by
  cases hl : d.listener with
  | accepting =>
    have hdraining : d.listen true = { d with listener := .draining, socket := false } := by simp [listen, hl, h]
    rw [hdraining]
    have hstill : ({ d with listener := .draining, socket := false } : Daemon σ π).isIdle = true := hidle
    simp [listen, hstill]
  | draining => simp [listen, hl, hidle]
  | returned => simp [listen, hl]

/-- A daemon that is told to stop comes to its end when its connections are served. -/
theorem exists_returned (agent : Agent σ π) {d : Daemon σ π} (h : d.signal = .raised) :
    ∃ more, (∀ event ∈ more, event.IsPace) ∧ (d.run agent more).listener = .returned := by
  obtain ⟨more, hm, hclosed⟩ := exists_closed_below agent h d.connections.length
  have hlength := length_run_of_pace agent d hm
  have hsignal := signal_run_of_raised agent h more
  have hidle : (d.run agent more).isIdle = true := by
    rw [isIdle_iff]
    intro i c hc
    have hlt := (List.getElem?_eq_some_iff.mp hc).1
    exact hclosed i (hlength ▸ hlt) c hc
  refine ⟨more ++ [.listen true, .listen true], ?_, ?_⟩
  · intro event he
    obtain he | he := List.mem_append.mp he
    · exact hm event he
    · obtain rfl : event = .listen true := by simpa using he
      trivial
  · rw [run_append]
    exact returned_of_isIdle hsignal hidle

end Daemon

/-! ## What is noted later on -/

namespace Agent

variable {agent : Agent σ π}

/-- What is noted on a connection later on, behind what is noted on it now, is nothing, or the rest of the handling
that it is at, or one handling if it is about to look for a frame. -/
def WindsUp (agent : Agent σ π) (polls : Prop) (now later : List Note) : Prop :=
  ∃ done : List Handling, (∀ h ∈ done, agent.Allows h ∧ h.response.isSome = true) ∧
    ((now = done.flatMap Handling.transcript ∧ later = []) ∨
      (∃ last notes, agent.Allows last ∧ now = done.flatMap Handling.transcript ++ .taken last.request :: notes ∧
        last.transcript = .taken last.request :: (notes ++ later)) ∨
      polls ∧ ∃ last, agent.Allows last ∧ now = done.flatMap Handling.transcript ∧ later = last.transcript)

/-- One request at most is taken later, and one at most is answered. -/
lemma WindsUp.later {polls : Prop} {now later : List Note} (h : agent.WindsUp polls now later) :
    (later.filterMap Note.request?).length ≤ 1 ∧ (later.filterMap Note.response?).length ≤ 1 ∧
      (¬ polls → later.filterMap Note.request? = []) := by
  have hone (last : Handling) : last.response.toList.length ≤ 1 := by cases last.response <;> simp
  obtain ⟨done, -, ⟨-, rfl⟩ | ⟨last, notes, ha, -, ht⟩ | ⟨hpolls, last, ha, -, rfl⟩⟩ := h
  · simp
  · obtain ⟨hrequests, hresponses⟩ := ha.filterMap_transcript
    rw [ht] at hrequests hresponses
    simp only [List.filterMap_cons, List.filterMap_append, Note.request?, Note.response?, List.cons.injEq, true_and,
      List.append_eq_nil_iff] at hrequests hresponses
    refine ⟨by simp [hrequests.2], ?_, fun _ => hrequests.2⟩
    have hle := hone last
    rw [← hresponses, List.length_append] at hle
    omega
  · obtain ⟨hrequests, hresponses⟩ := ha.filterMap_transcript
    rw [hrequests, hresponses]
    exact ⟨Nat.le_refl 1, hone last, fun hidle => absurd hpolls hidle⟩

end Agent

namespace Daemon

lemma windsUp_of_raised (agent : Agent σ π) {d : Daemon σ π} (h : d.signal = .raised) {i : Nat}
    {journal : List (Nat × Note)} (ht : d.Tells agent i journal) (more : List DaemonEvent) :
    agent.WindsUp (∃ c, d.connections[i]? = some c ∧ c.phase = .polling) (notesOn i journal)
      (notesOn i (d.journal agent more)) := by
  unfold Daemon.Tells at ht
  cases hc : d.connections[i]? with
  | none =>
    rw [hc] at ht
    exact ⟨[], by simp, Or.inl ⟨ht, notesOn_of_idle agent h (by simp [hc]) more⟩⟩
  | some c =>
    rw [hc] at ht
    obtain ⟨done, hd, hn⟩ := ht
    refine ⟨done, hd, ?_⟩
    cases hp : c.phase with
    | serving request stage =>
      rw [hp] at hn
      obtain ⟨now, hcourse, hn⟩ := hn
      have hfinishes : agent.Finishes request now c.phase := by
        rw [hp]
        exact ⟨rfl, hcourse⟩
      obtain ⟨phase, hlater⟩ := finishes_of_serving agent h hc hfinishes more
      obtain ⟨last, ha, hl⟩ := hlater.exists_handling
      obtain rfl : last.request = request := by simpa [Handling.transcript] using (List.cons.inj hl).1
      exact Or.inr (Or.inl ⟨last, now, ha, hn, hl⟩)
    | polling =>
      rw [hp] at hn
      obtain hnone | ⟨last, ha, hl⟩ := notesOn_of_polling agent h hc hp more
      · exact Or.inl ⟨hn, hnone⟩
      · exact Or.inr (Or.inr ⟨⟨c, rfl, hp⟩, last, ha, hn, hl⟩)
    | _ =>
      rw [hp] at hn
      have hidle : ∀ next, d.connections[i]? = some next → next.phase.IsIdle := by simp [hc, hp, Phase.IsIdle]
      exact Or.inl ⟨hn, notesOn_of_idle agent h hidle more⟩

/-- In each run the requests of a connection are handled one after another, and the last one is answered before the
connection is closed. The client gets each response, an error when that is too large for a frame, or nothing when not
even the error fits. The listener returns only when all connections are closed and it has tried to remove its socket,
which is gone unless that failed. From the signal on a connection takes one request at most, and none unless it had just
looked for the signal and found none; one that is not there yet comes to nothing and one that is at a request to the end
of it; and the listener returns if only the connections are served. -/
theorem shutdown_graceful (agent : Agent σ π) (s : Agent.State σ π) (events : List DaemonEvent) :
    let d := (started s).run agent events
    let journal := (started s).journal agent events
    let stand : Response := .failure "Response exceeds maximum message size"
    let written (r : Response) : List UInt8 :=
      if r.encode.length ≤ agent.policy.messageLimit then Frame.wrap r.encode
      else if stand.encode.length ≤ agent.policy.messageLimit then Frame.wrap stand.encode
      else []
    (∀ i, ∃ handlings : List Handling,
      notesOn i journal = handlings.flatMap Handling.transcript ∧ (∀ h ∈ handlings, agent.Allows h) ∧
      (∀ h ∈ handlings.dropLast, h.response.isSome = true) ∧
      (∀ c, d.connections[i]? = some c → c.isClosed = true → ∀ h ∈ handlings, h.response.isSome = true) ∧
      (.leave i ∉ events →
        (started s).delivered agent i events = (handlings.filterMap Handling.response).flatMap written)) ∧
    (d.listener = .returned → d.isIdle = true ∧ ∃ past removable future,
      events = past ++ .listen removable :: future ∧ ((started s).run agent past).listener = .accepting ∧
        d.socket = ! removable) ∧
    (d.signal = .raised →
      (∀ i more, let later := notesOn i (d.journal agent more)
        let polls := ∃ c, d.connections[i]? = some c ∧ c.phase = .polling
        agent.WindsUp polls (notesOn i journal) later ∧ (later.filterMap Note.request?).length ≤ 1 ∧
        (later.filterMap Note.response?).length ≤ 1 ∧ (later.filterMap Note.request? ≠ [] → polls) ∧
        (d.connections[i]? = none → later = [])) ∧
      ∃ more, (∀ event ∈ more, event.IsPace) ∧ (d.run agent more).listener = .returned) := by
  intro d journal stand written
  refine ⟨?_, ?_, ?_⟩
  · intro i
    obtain ⟨handlings, hn, ha, hlast, hclosed⟩ := handlings_of_run agent s events i
    refine ⟨handlings, hn, ha, hlast, hclosed, ?_⟩
    intro hstay
    have hdelivered := delivered_run agent (d := started s) hstay (by simp [started])
    have hwritten : Response.written agent.policy.messageLimit = written := funext (Response.written_eq _)
    rw [hn, Agent.responses_transcripts ha, hwritten] at hdelivered
    exact hdelivered.symm
  · intro hreturned
    refine ⟨closed_of_returned agent s events hreturned, ?_⟩
    obtain ⟨haccepting, -⟩ | ⟨-, hremoval⟩ := removal_of_run agent s events
    · exact absurd (hreturned.symm.trans haccepting) nofun
    · exact hremoval
  · intro hraised
    refine ⟨?_, exists_returned agent hraised⟩
    intro i more later polls
    have hwinds := windsUp_of_raised agent hraised (tells_run agent s events i) more
    obtain ⟨hrequests, hresponses, hnone⟩ := hwinds.later
    refine ⟨hwinds, hrequests, hresponses, ?_, ?_⟩
    · intro htaken
      by_contra hidle
      exact htaken (hnone hidle)
    · intro hnone
      exact notesOn_of_idle agent hraised (by simp [hnone]) more

/-- A client whose request is at hand when the daemon is told to stop. -/
def lastVisit : List DaemonEvent :=
  [.accept, .receive 0 (Frame.wrap (Text.octets "\x7b\"cmd\":\"clear\"\x7d")), .advance 0, .advance 0, .advance 0,
    .raise]

def lastSteps : List DaemonEvent := [.advance 0, .listen true, .advance 0, .advance 0, .listen true]

/-- The client gets the response to its request and no other is taken, and then the listener returns. -/
theorem shutdown_graceful_clear :
    let d := (started home.state).run homeAgent (lastVisit ++ lastSteps)
    (d.listener = .returned ∧ d.socket = false ∧ d.isIdle = true) ∧
    (started home.state).delivered homeAgent 0 (lastVisit ++ lastSteps) =
      Frame.wrap (Text.octets "\x7b\"status\":\"ok\"\x7d") ∧
    (notesOn 0 ((started home.state).journal homeAgent lastVisit)).filterMap Note.request? = [.clear] ∧
    (notesOn 0 (((started home.state).run homeAgent lastVisit).journal homeAgent lastSteps)).filterMap Note.request?
      = [] := by
  intro d
  have hreturned : d.listener = .returned := by decide +kernel
  have hraised : ((started home.state).run homeAgent lastVisit).signal = .raised := by decide +kernel
  have hstay : DaemonEvent.leave 0 ∉ lastVisit ++ lastSteps := by simp [lastVisit, lastSteps]
  obtain ⟨hserved, hend, -⟩ := shutdown_graceful homeAgent home.state (lastVisit ++ lastSteps)
  obtain ⟨-, -, hstop⟩ := shutdown_graceful homeAgent home.state lastVisit
  obtain ⟨hidle, past, removable, future, hevents, -, hsocket⟩ := hend hreturned
  have hremovable : removable = true := by
    have hmem : DaemonEvent.listen removable ∈ lastVisit ++ lastSteps := by simp [hevents]
    simpa [lastVisit, lastSteps] using hmem
  obtain ⟨handlings, hn, hallows, -, -, hdelivered⟩ := hserved 0
  have hresponses : handlings.filterMap Handling.response = [.ack .ok] := by
    rw [← Agent.responses_transcripts hallows, ← hn]
    rfl
  have hgot := hdelivered hstay
  rw [hresponses] at hgot
  refine ⟨⟨hreturned, by rw [hsocket, hremovable]; rfl, hidle⟩, hgot, rfl, ?_⟩
  obtain ⟨-, -, -, hpolls, -⟩ := (hstop hraised).1 0 lastSteps
  by_contra htaken
  obtain ⟨c, hc, hp⟩ := hpolls htaken
  obtain ⟨stage, hserving⟩ : ∃ stage, ((started home.state).run homeAgent lastVisit).connections[0]?.map (·.phase) =
      some (.serving .clear stage) := ⟨_, rfl⟩
  rw [hc, Option.map_some, hp] at hserving
  exact Phase.noConfusion (Option.some.inj hserving)

/-- An agent whose frames hold no response but the shortest. -/
def narrowAgent : Agent VirtualMachine Unit := ⟨VirtualMachine.backend, none, ⟨true, 50, 30000, 5, "none"⟩⟩

def muteFrame : List UInt8 := Frame.wrap (Text.octets "\x7b\"cmd\":\"action\",\"action\":\x7b\"name\":\"mute\"\x7d\x7d")

/-- A client that connects, and its connection has just looked for the signal when the daemon is told to stop. -/
def earlyVisit : List DaemonEvent := [.accept, .advance 0, .advance 0, .raise]

def narrowVisit : List DaemonEvent :=
  [.accept, .receive 0 muteFrame, .advance 0, .advance 0, .advance 0, .raise] ++ List.replicate 8 (.advance 0)

/-- A request is taken whose octets come after the signal; the listener returns and its socket is still there; and a
request is handled to its end, and the client, which reads on, gets nothing. -/
theorem frame_after_signal :
    let raised := (started home.state).run homeAgent earlyVisit
    let late := raised.journal homeAgent [.receive 0 muteFrame, .advance 0]
    let blocked := (started home.state).run homeAgent [.raise, .listen false, .listen true]
    let narrow := (started home.state).run narrowAgent narrowVisit
    (raised.signal = .raised ∧ (started home.state).journal homeAgent earlyVisit = [] ∧
      raised.connections.map (·.incoming) = [[]] ∧ ((notesOn 0 late).filterMap Note.request?).length = 1) ∧
    (blocked.listener = .returned ∧ blocked.socket = true) ∧
    narrow.signal = .raised ∧ narrow.isIdle = true ∧ narrow.state.devices.settings.muted = true ∧
      .leave 0 ∉ narrowVisit ∧ (started home.state).delivered narrowAgent 0 narrowVisit = [] := by
  intro raised late blocked narrow
  refine ⟨⟨?_, rfl, ?_, ?_⟩, ⟨?_, ?_⟩, ?_, ?_, ?_, by simp [narrowVisit], ?_⟩
  all_goals decide +kernel

end Daemon

end DeviceAgent
