import DeviceAgent.Proofs.Journal

/-!
# What an event does to a connection

An event changes a connection as it is told here and in no other way, and nothing but the serving of a connection adds
to its notes. What is said of a connection in a run goes through these cases.
-/

namespace DeviceAgent

variable {σ π : Type}

namespace Connection

/-- What becomes of a connection, given its place, at an event. -/
def meet (agent : Agent σ π) (stopping : Bool) (s : Agent.State σ π) (i : Nat) (c : Connection) :
    DaemonEvent → Connection
  | .receive k octets =>
    if k = i then if c.isClosed || c.ended then c else { c with incoming := c.incoming ++ octets } else c
  | .finish k => if k = i then { c with ended := true } else c
  | .leave k => if k = i then { c with ended := true, gone := true } else c
  | .fetch k => if k = i then { c with outgoing := [] } else c
  | .advance k => if k = i then (c.advance agent stopping s).1 else c
  | .elapse ms => c.elapse ms
  | .accept | .fire | .raise | .lose | .tick _ | .crowd _ | .listen _ => c

/-- What is noted on a connection, given its place, at an event. -/
def noted (agent : Agent σ π) (s : Agent.State σ π) (i : Nat) (c : Connection) :
    DaemonEvent → List Note
  | .advance k => if k = i then c.notes agent s else []
  | _ => []

@[simp]
lemma phase_elapse_zero (c : Connection) : (c.elapse 0).phase = c.phase := by
  have hstage (stage : Stage) : stage.elapse 0 = stage := by cases stage <;> rfl
  unfold elapse
  cases h : c.phase <;> simp [hstage, h]

/-- At an event a connection is served, or time passes for it, if only none. -/
lemma meet_cases (agent : Agent σ π) (stopping : Bool) (s : Agent.State σ π) (i : Nat) (c : Connection)
    (event : DaemonEvent) :
    (c.meet agent stopping s i event = (c.advance agent stopping s).1 ∧
      c.noted agent s i event = c.notes agent s) ∨
    ((∃ ms, (c.meet agent stopping s i event).phase = (c.elapse ms).phase) ∧
      c.noted agent s i event = []) := by
  have hsame (next : Connection) (h : next.phase = c.phase) : ∃ ms, next.phase = (c.elapse ms).phase :=
    ⟨0, h.trans c.phase_elapse_zero.symm⟩
  cases event with
  | advance k =>
    by_cases hk : k = i
    · left
      simp [meet, noted, hk]
    · right
      rw [meet, noted, if_neg hk, if_neg hk]
      exact ⟨hsame c rfl, rfl⟩
  | elapse ms => exact Or.inr ⟨⟨ms, rfl⟩, rfl⟩
  | receive k octets =>
    refine Or.inr ⟨hsame _ ?_, rfl⟩
    simp only [meet]
    repeat' split
    all_goals rfl
  | finish k =>
    refine Or.inr ⟨hsame _ ?_, rfl⟩
    simp only [meet]
    split <;> rfl
  | leave k =>
    refine Or.inr ⟨hsame _ ?_, rfl⟩
    simp only [meet]
    split <;> rfl
  | fetch k =>
    refine Or.inr ⟨hsame _ ?_, rfl⟩
    simp only [meet]
    split <;> rfl
  | _ => exact Or.inr ⟨hsame c rfl, rfl⟩

end Connection

namespace Daemon

lemma getElem?_update (d : Daemon σ π) (k i : Nat) (change : Connection → Connection) :
    (d.update k change).connections[i]? = if k = i then (d.connections[i]?).map change else d.connections[i]? := by
  simp only [update, List.getElem?_modify]
  by_cases h : k = i <;> simp [h]

/-- A connection that is there meets the event. -/
lemma getElem?_step (agent : Agent σ π) {d : Daemon σ π} {i : Nat} {c : Connection} (h : d.connections[i]? = some c)
    (event : DaemonEvent) :
    (d.step agent event).connections[i]? = some (c.meet agent d.isStopping d.state i event) := by
  cases event with
  | accept =>
    simp only [step, Connection.meet]
    split
    · rw [List.getElem?_append_left (List.getElem?_eq_some_iff.mp h).1, h]
    · exact h
  | advance k =>
    have hi : i < d.connections.length := (List.getElem?_eq_some_iff.mp h).1
    simp only [step, Daemon.advance, Connection.meet]
    by_cases hk : k = i
    · subst hk
      simp only [h, if_pos, List.getElem?_set_self hi]
    · rw [if_neg hk]
      split
      · exact h
      · rw [List.getElem?_set_ne hk, h]
  | elapse ms => simp [step, Daemon.elapse, Connection.meet, h]
  | receive k octets =>
    simp only [step, getElem?_update, Connection.meet, h]
    split <;> rfl
  | finish k =>
    simp only [step, getElem?_update, Connection.meet, h]
    split <;> rfl
  | leave k =>
    simp only [step, getElem?_update, Connection.meet, h]
    split <;> rfl
  | fetch k =>
    simp only [step, getElem?_update, Connection.meet, h]
    split <;> rfl
  | listen removable =>
    simp only [step, Daemon.listen, Connection.meet]
    repeat' split
    all_goals exact h
  | raise =>
    simp only [step, Connection.meet]
    split <;> exact h
  | lose =>
    simp only [step, Connection.meet]
    split <;> exact h
  | fire | tick clock | crowd spare => exact h

/-- A connection is there only when it was accepted. -/
lemma getElem?_step_none (agent : Agent σ π) {d : Daemon σ π} {i : Nat} (h : d.connections[i]? = none)
    (event : DaemonEvent) :
    (d.step agent event).connections[i]? = none ∨
      (d.listener = .accepting ∧ (d.step agent event).connections[i]? = some .opened) := by
  have hle : d.connections.length ≤ i := List.getElem?_eq_none_iff.mp h
  cases event with
  | accept =>
    by_cases ha : d.listener = .accepting
    · simp only [step, if_pos ha]
      obtain hlt | rfl := Nat.lt_or_eq_of_le hle
      · left
        rw [List.getElem?_eq_none_iff, List.length_append]
        exact hlt
      · exact Or.inr ⟨ha, List.getElem?_concat_length⟩
    · left
      rw [step, if_neg ha]
      exact h
  | advance k =>
    left
    simp only [step, Daemon.advance]
    split
    · exact h
    · simpa using hle
  | elapse ms =>
    left
    simpa [step, Daemon.elapse] using hle
  | listen removable =>
    left
    simp only [step, Daemon.listen]
    repeat' split
    all_goals exact h
  | raise =>
    left
    simp only [step]
    split <;> exact h
  | lose =>
    left
    simp only [step]
    split <;> exact h
  | fire => exact Or.inl h
  | _ =>
    left
    simp [step, getElem?_update, h]

/-- The signal changes once, when it is raised or lost. -/
lemma signal_step (agent : Agent σ π) (d : Daemon σ π) (event : DaemonEvent) :
    (d.step agent event).signal = d.signal ∨
    (d.signal = .pending ∧ event = .raise ∧ (d.step agent event).signal = .raised) ∨
    (d.signal = .pending ∧ event = .lose ∧ (d.step agent event).signal = .lost) := by
  cases event with
  | raise =>
    by_cases hp : d.signal = .pending
    · exact Or.inr (Or.inl ⟨hp, rfl, by simp [step, hp]⟩)
    · exact Or.inl (by simp [step, hp])
  | lose =>
    by_cases hp : d.signal = .pending
    · exact Or.inr (Or.inr ⟨hp, rfl, by simp [step, hp]⟩)
    · exact Or.inl (by simp [step, hp])
  | accept =>
    left
    simp only [step]
    split <;> rfl
  | advance k =>
    left
    simp only [step, Daemon.advance]
    split <;> rfl
  | listen removable =>
    left
    simp only [step, Daemon.listen]
    repeat' split
    all_goals rfl
  | _ => exact Or.inl rfl

/-- What is noted on a connection at an event. -/
lemma notesOn_notes (agent : Agent σ π) (d : Daemon σ π) (i : Nat) (event : DaemonEvent) :
    notesOn i (d.notes agent event) =
      ((d.connections[i]?).map (·.noted agent d.state i event)).getD [] := by
  cases event with
  | advance k =>
    simp only [notes, Connection.noted]
    by_cases hk : k = i
    · subst hk
      cases d.connections[k]? with
      | none => rfl
      | some c => simp [notesOn_map]
    · have hnone : ((d.connections[i]?).map fun _ => ([] : List Note)).getD [] = [] := by
        cases d.connections[i]? <;> rfl
      simp only [if_neg hk, hnone]
      cases d.connections[k]? with
      | none => rfl
      | some c => rw [notesOn_map, if_neg hk]
  | _ =>
    cases d.connections[i]? <;> rfl

end Daemon

end DeviceAgent
