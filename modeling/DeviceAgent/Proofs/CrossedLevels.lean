import DeviceAgent.Proofs.Events
import DeviceAgent.Proofs.Framing
import DeviceAgent.Proofs.LevelCommands
import DeviceAgent.Proofs.ReadThenSet
import Mathlib.Data.List.GetD
import Mathlib.Data.List.Infix

/-!
# Levels that are turned side by side

A chat that turns a level up or down reads it in one step and sets it in a later one, and nothing keeps other chats out
in between. What was set there in the meantime is lost.
-/

namespace DeviceAgent

variable {σ π : Type}

/-! ## A chat that turns a level -/

/-- How far a chat has come with a level, by the phase of its connection. -/
inductive Reaches (k : Knob) (said : String) : Phase → Progress → Prop
  | arrived : Reaches k said (.serving (.chat said) (.arrived (.chat said))) .before
  | consulting (history : List Turn) : Reaches k said (.serving (.chat said) (.consulting said history)) .before
  | awaiting (failure : ProviderFailure) (wait : Nat) :
    Reaches k said (.serving (.chat said) (.awaiting said (.error failure) wait)) .before
  | interpreting : Reaches k said (.serving (.chat said) (.interpreting said)) .before
  | replied {target : Nat} (h : target ≤ 100) :
    Reaches k said (.serving (.chat said) (.replied said (Interpreter.setReply k.dial target) false)) (.between target)
  | acting {target : Nat} (h : target ≤ 100) (text : String) :
    Reaches k said (.serving (.chat said) (.acting (some text) (.single k.name "level" (.ofNat target))))
      (.between target)
  | finished (response : Response) : Reaches k said (.serving (.chat said) (.finished response)) .after
  | checking : Reaches k said .checking .after
  | waiting : Reaches k said .waiting .after
  | polling : Reaches k said .polling .after
  | closed : Reaches k said .closed .after

namespace Agent

/-- The machine works and a provider, if there is one, fails. -/
structure State.Works (down : π → Prop) (s : Agent.State VirtualMachine π) : Prop where
  works : s.devices.failing = false
  down : down s.provider

/-- Chats that each ask something of one knob, of an agent whose provider, if it has one, fails. -/
structure Chats (agent : Agent VirtualMachine π) (down : π → Prop) (k : Knob) (said : List String)
    (a : Nat → Interpreter.Adjustment) : Prop where
  backend : agent.backend = VirtualMachine.backend
  fails : ∀ p, agent.provider = some p → p.Fails agent.policy.replyLimit down
  knob : ∀ i < said.length, Interpreter.knob? (.ofString (said.getD i "")) = some k
  asks : ∀ i < said.length, Interpreter.Asks (.ofString (said.getD i "")) k (a i)

/-- What a step of a chat does to the state and to how far the chat has come. -/
inductive Moves (k : Knob) (said : String) (change : Nat → Nat) (s : Agent.State VirtualMachine π) (progress : Progress)
    (phase : Phase) (next : Agent.State VirtualMachine π) : Prop
  | stay (h : Reaches k said phase progress) (hs : next.devices.settings = s.devices.settings)
  | read (hp : progress = .before) (h : Reaches k said phase (.between (change (k.level s.devices.settings))))
    (hs : next.devices.settings = s.devices.settings)
  | set {target : Nat} (hp : progress = .between target) (h : Reaches k said phase .after)
    (hs : next.devices.settings = k.set target s.devices.settings)

section Steps

variable {agent : Agent VirtualMachine π} {down : π → Prop} {s : Agent.State VirtualMachine π} {k : Knob}
  {said : String} {a : Interpreter.Adjustment}

lemma advance_reaches (hb : agent.backend = VirtualMachine.backend)
    (hl : ∀ p, agent.provider = some p → p.Fails agent.policy.replyLimit down)
    (hk : Interpreter.knob? (.ofString said) = some k) (ha : Interpreter.Asks (.ofString said) k a) (hs : s.Works down)
    {stage : Stage} {progress : Progress} (h : Reaches k said (.serving (.chat said) stage) progress)
    (hf : ∀ response, stage ≠ .finished response) :
    let out := agent.advance s stage
    out.2.Works down ∧ Moves k said a.reached s progress (.serving (.chat said) out.1) out.2 := by
  cases h with
  | arrived =>
    dsimp only [advance, start]
    split
    · exact ⟨hs, .stay (.consulting _) rfl⟩
    · exact ⟨hs, .stay .interpreting rfl⟩
  | consulting history =>
    dsimp only [advance, consult]
    cases hp : agent.provider with
    | none => exact ⟨hs, .stay .interpreting rfl⟩
    | some p =>
      obtain ⟨failure, hfailure⟩ := (hl p hp).within hs.down history said
      dsimp only
      rw [hfailure]
      exact ⟨⟨hs.works, (hl p hp).down hs.down history said⟩, .stay (.awaiting failure _) rfl⟩
  | awaiting failure wait => exact ⟨hs, .stay .interpreting rfl⟩
  | interpreting =>
    obtain ⟨calls, hinterpret⟩ := Interpreter.interpret_asked hk hs.works ha agent.policy.confirmDangerous s.clock
    dsimp only [advance, interpret]
    rw [hb, hinterpret]
    exact ⟨⟨hs.works, hs.down⟩, .read rfl (.replied (a.reached_le _)) rfl⟩
  | replied ht =>
    dsimp only [advance, log, Interpreter.setReply, Reply.act]
    rw [k.name_dial]
    exact ⟨⟨hs.works, hs.down⟩, .stay (.acting ht _) rfl⟩
  | acting ht text =>
    dsimp only [advance, act]
    rw [hb, k.execute_level ht (VirtualMachine.write_ok hs.works k ht)]
    exact ⟨⟨hs.works, hs.down⟩, .set rfl (.finished _) rfl⟩
  | finished response => exact absurd rfl (hf response)

end Steps

end Agent

lemma Reaches.elapse {k : Knob} {said : String} {c : Connection} {progress : Progress}
    (h : Reaches k said c.phase progress) (ms : Nat) : Reaches k said (c.elapse ms).phase progress := by
  unfold Connection.elapse
  generalize hp : c.phase = phase at h
  cases h with
  | arrived => exact .arrived
  | consulting history => exact .consulting history
  | awaiting failure wait => exact .awaiting failure _
  | interpreting => exact .interpreting
  | replied ht => exact .replied ht
  | acting ht text => exact .acting ht text
  | finished response => exact .finished response
  | checking =>
    show Reaches k said c.phase .after
    rw [hp]
    exact .checking
  | waiting =>
    show Reaches k said c.phase .after
    rw [hp]
    exact .waiting
  | polling =>
    show Reaches k said c.phase .after
    rw [hp]
    exact .polling
  | closed =>
    show Reaches k said c.phase .after
    rw [hp]
    exact .closed

namespace Connection

section Steps

variable {agent : Agent VirtualMachine π} {down : π → Prop} {s : Agent.State VirtualMachine π} {k : Knob}
  {said : String} {a : Interpreter.Adjustment} {c : Connection}

/-- A chat that is done leaves the level alone, and no other request follows. -/
lemma advance_after (agent : Agent VirtualMachine π) (stopping : Bool) (s : Agent.State VirtualMachine π)
    (h : Reaches k said c.phase .after) (hin : c.incoming = []) :
    (c.advance agent stopping s).2 = s ∧ (c.advance agent stopping s).1.incoming = [] ∧
      Reaches k said (c.advance agent stopping s).1.phase .after := by
  cases hp : c.phase with
  | checking =>
    simp only [advance, hp]
    refine ⟨trivial, hin, ?_⟩
    split
    · exact .closed
    · exact .waiting
  | waiting =>
    simp only [advance, hp, heed]
    split
    · refine ⟨trivial, ?_, .closed⟩
      dsimp only
      split
      · exact hin
      · rfl
    · exact ⟨trivial, hin, .polling⟩
  | polling =>
    simp only [advance, hp, listen]
    have hread (limit : Nat) : Frame.read limit [] = ⟨.ok none, []⟩ := rfl
    split
    · simp only [take, hin, hread]
      exact ⟨trivial, trivial, .closed⟩
    · exact ⟨trivial, hin, .waiting⟩
  | closed =>
    simp only [advance, hp]
    exact ⟨trivial, hin, .closed⟩
  | serving request stage =>
    rw [hp] at h
    cases h with
    | finished response =>
      simp only [advance, hp, write]
      split
      · exact ⟨trivial, hin, .checking⟩
      · exact ⟨trivial, hin, .closed⟩

lemma serving_of_reaches {progress : Progress} (h : Reaches k said c.phase progress) (hp : progress ≠ .after) :
    ∃ stage, c.phase = .serving (.chat said) stage ∧ ∀ response, stage ≠ .finished response := by
  generalize c.phase = phase at h
  cases h with
  | arrived => exact ⟨_, rfl, fun _ h => Stage.noConfusion h⟩
  | consulting => exact ⟨_, rfl, fun _ h => Stage.noConfusion h⟩
  | awaiting => exact ⟨_, rfl, fun _ h => Stage.noConfusion h⟩
  | interpreting => exact ⟨_, rfl, fun _ h => Stage.noConfusion h⟩
  | replied => exact ⟨_, rfl, fun _ h => Stage.noConfusion h⟩
  | acting => exact ⟨_, rfl, fun _ h => Stage.noConfusion h⟩
  | _ => exact absurd rfl hp

/-- A step of a connection with a chat at hand waits, or is one of the chat. -/
lemma advance_reaches (hb : agent.backend = VirtualMachine.backend)
    (hl : ∀ p, agent.provider = some p → p.Fails agent.policy.replyLimit down)
    (hk : Interpreter.knob? (.ofString said) = some k) (ha : Interpreter.Asks (.ofString said) k a) (hs : s.Works down)
    {progress : Progress} (h : Reaches k said c.phase progress) (hp : progress ≠ .after) (stopping : Bool) :
    let out := c.advance agent stopping s
    out.1.incoming = c.incoming ∧ out.2.Works down ∧ Agent.Moves k said a.reached s progress out.1.phase out.2 := by
  obtain ⟨stage, hphase, hf⟩ := serving_of_reaches h hp
  obtain ⟨-, hadvance, -⟩ | ⟨-, hadvance, -⟩ := c.advance_serving agent stopping hphase hf s
  · rw [hadvance]
    exact ⟨rfl, hs, .stay h rfl⟩
  · rw [hadvance]
    obtain ⟨hworks, hmoves⟩ := Agent.advance_reaches hb hl hk ha hs (hphase ▸ h) hf
    exact ⟨rfl, hworks, hmoves⟩

end Steps

/-- Nothing arrives at a connection unless a client sends it, and but for its own steps only time passes for it. -/
lemma meet_unserved (agent : Agent σ π) (stopping : Bool) (s : Agent.State σ π) {i : Nat} {c : Connection}
    {event : DaemonEvent} (hreceive : ∀ i octets, event ≠ .receive i octets) (hadvance : event ≠ .advance i) :
    (c.meet agent stopping s i event).incoming = c.incoming ∧
      ∃ ms, (c.meet agent stopping s i event).phase = (c.elapse ms).phase := by
  cases event with
  | receive k octets => exact absurd rfl (hreceive k octets)
  | advance k =>
    have hk : k ≠ i := fun h => hadvance (h ▸ rfl)
    rw [meet, if_neg hk]
    exact ⟨rfl, 0, c.phase_elapse_zero.symm⟩
  | elapse ms =>
    refine ⟨?_, ms, rfl⟩
    simp only [meet, elapse]
    split <;> rfl
  | finish k | leave k | fetch k =>
    simp only [meet]
    split <;> exact ⟨rfl, 0, c.phase_elapse_zero.symm⟩
  | _ => exact ⟨rfl, 0, c.phase_elapse_zero.symm⟩

end Connection

/-! ## Chats side by side -/

/-- Every connection is as far as the progress of its chat says, and no other request is on its way. -/
structure Daemon.Tracks (k : Knob) (said : List String) (down : π → Prop) (d : Daemon VirtualMachine π)
    (progress : Nat → Progress) : Prop where
  reaches : ∀ i c, d.connections[i]? = some c → c.incoming = [] ∧ Reaches k (said.getD i "") c.phase (progress i)
  works : d.state.Works down

section Daemons

variable {agent : Agent VirtualMachine π} {down : π → Prop} {k : Knob} {said : List String}
  {d : Daemon VirtualMachine π} {progress : Nat → Progress} {a : Nat → Interpreter.Adjustment}

lemma Agent.settings_fire (hb : agent.backend = VirtualMachine.backend) {s : Agent.State VirtualMachine π}
    (hs : s.Works down) :
    (agent.fire s).devices.settings = s.devices.settings ∧ (agent.fire s).Works down := by
  unfold fire
  split
  · exact ⟨rfl, hs⟩
  · rw [hb]
    simp only [VirtualMachine.backend, VirtualMachine.perform, VirtualMachine.apply, hs.works, Bool.false_eq_true,
      if_false]
    exact ⟨trivial, rfl, hs.down⟩

namespace Daemon

lemma exists_of_getElem?_step {event : DaemonEvent} {i : Nat} {c' : Connection}
    (h : (d.step agent event).connections[i]? = some c') :
    (∃ c, d.connections[i]? = some c ∧ c' = c.meet agent d.isStopping d.state i event) ∨
      (d.connections[i]? = none ∧ c' = .opened) := by
  cases hc : d.connections[i]? with
  | some c =>
    rw [getElem?_step agent hc] at h
    exact Or.inl ⟨c, rfl, (Option.some.inj h).symm⟩
  | none =>
    right
    obtain hnone | ⟨-, hopened⟩ := getElem?_step_none agent hc event
    · rw [hnone] at h
      exact absurd h nofun
    · rw [hopened] at h
      exact ⟨rfl, (Option.some.inj h).symm⟩

lemma state_advance {i : Nat} {c : Connection} (hc : d.connections[i]? = some c) :
    (d.step agent (.advance i)).state = (c.advance agent d.isStopping d.state).2 := by
  simp [Daemon.step, Daemon.advance, hc]

/-- A connection that is not served at an event stays where it is with its chat. -/
lemma Tracks.unserved (h : d.Tracks k said down progress) (hlate : ∀ i, d.connections.length ≤ i → progress i = .after)
    {event : DaemonEvent} (he : ∀ i octets, event ≠ .receive i octets) {i : Nat}
    (hi : event = .advance i → d.connections[i]? = none) {c' : Connection}
    (hc' : (d.step agent event).connections[i]? = some c') :
    c'.incoming = [] ∧ Reaches k (said.getD i "") c'.phase (progress i) := by
  obtain ⟨c, hc, rfl⟩ | ⟨hnone, rfl⟩ := exists_of_getElem?_step hc'
  · have hother : event ≠ .advance i := by
      intro heq
      rw [hi heq] at hc
      exact absurd hc nofun
    obtain ⟨hin, hreaches⟩ := h.reaches i c hc
    obtain ⟨hincoming, ms, hphase⟩ := c.meet_unserved agent d.isStopping d.state he hother
    rw [hincoming, hphase]
    exact ⟨hin, hreaches.elapse ms⟩
  · rw [hlate i (List.getElem?_eq_none_iff.mp hnone)]
    exact ⟨rfl, .checking⟩

/-- When one connection is served, how far the others are stays the same. -/
lemma Tracks.update (h : d.Tracks k said down progress)
    (hlate : ∀ i, d.connections.length ≤ i → progress i = .after) {i : Nat} {c : Connection}
    (hc : d.connections[i]? = some c) {p : Progress}
    (hin : (c.advance agent d.isStopping d.state).1.incoming = [])
    (hp : Reaches k (said.getD i "") (c.advance agent d.isStopping d.state).1.phase p)
    (hs : (c.advance agent d.isStopping d.state).2.Works down) :
    (d.step agent (.advance i)).Tracks k said down (Function.update progress i p) where
  reaches j c' hc' := by
    by_cases hj : j = i
    · subst hj
      rw [getElem?_step agent hc] at hc'
      obtain rfl : (c.advance agent d.isStopping d.state).1 = c' := by
        simpa [Connection.meet] using Option.some.inj hc'
      rw [Function.update_self]
      exact ⟨hin, hp⟩
    · have hother : DaemonEvent.advance i = .advance j → d.connections[j]? = none :=
        fun heq => absurd (DaemonEvent.advance.inj heq).symm hj
      rw [Function.update_of_ne hj]
      have hreceive : ∀ k octets, DaemonEvent.advance i ≠ .receive k octets :=
        fun _ _ heq => DaemonEvent.noConfusion heq
      exact h.unserved hlate hreceive hother hc'
  works := by
    rw [state_advance hc]
    exact hs

/-- Serving a connection is a step of its chat, if that is not done. -/
lemma Tracks.serve (hchats : agent.Chats down k said a) (h : d.Tracks k said down progress)
    (hlate : ∀ i, said.length ≤ i → progress i = .after) (hpresent : said.length ≤ d.connections.length) {i : Nat}
    {c : Connection} (hc : d.connections[i]? = some c) :
    ∃ progress', (d.step agent (.advance i)).Tracks k said down progress' ∧
      Turns (fun i => (a i).reached) progress (k.level d.state.devices.settings) progress'
        (k.level (d.step agent (.advance i)).state.devices.settings) := by
  have hnew : ∀ i, d.connections.length ≤ i → progress i = .after := fun i hi => hlate i (hpresent.trans hi)
  have hsame : Function.update progress i (progress i) = progress := Function.update_eq_self i progress
  obtain ⟨hin, hreaches⟩ := h.reaches i c hc
  rw [state_advance hc]
  by_cases hafter : progress i = .after
  · rw [hafter] at hreaches
    obtain ⟨hstate, hincoming, hnext⟩ := Connection.advance_after agent d.isStopping d.state hreaches hin
    have hworks : (c.advance agent d.isStopping d.state).2.Works down := by
      rw [hstate]
      exact h.works
    have htracks := h.update hnew hc hincoming hnext hworks
    rw [← hafter, hsame] at htracks
    rw [hstate]
    exact ⟨progress, htracks, .stay⟩
  · have hi : i < said.length := Nat.lt_of_not_le fun hle => hafter (hlate i hle)
    obtain ⟨hincoming, hworks, hmoves⟩ := Connection.advance_reaches hchats.backend hchats.fails (hchats.knob i hi)
      (hchats.asks i hi) h.works hreaches hafter d.isStopping
    have htracks (p : Progress) (hp : Reaches k (said.getD i "") (c.advance agent d.isStopping d.state).1.phase p) :=
      h.update hnew hc (hincoming.trans hin) hp hworks
    cases hmoves with
    | stay hphase hsettings =>
      rw [hsettings]
      exact ⟨progress, hsame ▸ htracks _ hphase, .stay⟩
    | read hbefore hphase hsettings =>
      rw [hsettings]
      exact ⟨_, htracks _ hphase, .read i hbefore⟩
    | set hbetween hphase hsettings =>
      rw [hsettings, Knob.level_set]
      exact ⟨_, htracks _ hphase, .set i _ hbetween⟩

/-- An event is a step of one chat at most. -/
lemma Tracks.step (hchats : agent.Chats down k said a) (h : d.Tracks k said down progress)
    (hlate : ∀ i, said.length ≤ i → progress i = .after) (hpresent : said.length ≤ d.connections.length)
    {event : DaemonEvent} (he : ∀ i octets, event ≠ .receive i octets) :
    ∃ progress', (d.step agent event).Tracks k said down progress' ∧
      Turns (fun i => (a i).reached) progress (k.level d.state.devices.settings) progress'
        (k.level (d.step agent event).state.devices.settings) := by
  by_cases hserved : ∃ i c, event = .advance i ∧ d.connections[i]? = some c
  · obtain ⟨i, c, rfl, hc⟩ := hserved
    exact h.serve hchats hlate hpresent hc
  · have hidle (i : Nat) (hi : event = .advance i) : d.connections[i]? = none := by
      rw [Option.eq_none_iff_forall_ne_some]
      intro c hc
      exact hserved ⟨i, c, hi, hc⟩
    have hnew : ∀ i, d.connections.length ≤ i → progress i = .after := fun i hi => hlate i (hpresent.trans hi)
    have hstate : (d.step agent event).state.devices.settings = d.state.devices.settings ∧
        (d.step agent event).state.Works down := by
      obtain ⟨⟨clock, spare, hs⟩, -⟩ | ⟨-, hs, -⟩ | ⟨i, c, hi, hc, -⟩ := d.state_step agent event
      · rw [hs]
        exact ⟨rfl, h.works.works, h.works.down⟩
      · rw [hs]
        exact Agent.settings_fire hchats.backend h.works
      · exact absurd ⟨i, c, hi, hc⟩ hserved
    refine ⟨progress, ⟨fun i c' hc' => h.unserved hnew he (hidle i) hc', hstate.2⟩, ?_⟩
    rw [hstate.1]
    exact .stay

lemma length_step_le (event : DaemonEvent) : d.connections.length ≤ (d.step agent event).connections.length := by
  by_contra hlt
  have hthere : (d.step agent event).connections.length < d.connections.length := Nat.lt_of_not_le hlt
  have hsome := getElem?_step agent (List.getElem?_eq_getElem hthere) event
  exact absurd (List.getElem?_eq_some_iff.mp hsome).1 (Nat.lt_irrefl _)

end Daemon

end Daemons

/-! ## Chats that meet -/

/-- Whether a level was read for the request and is not set yet. -/
def Stage.isTurning : Stage → Bool
  | .replied .. | .acting .. => true
  | _ => false

def Connection.isTurning (c : Connection) : Bool :=
  match c.phase with
  | .serving _ stage => stage.isTurning
  | _ => false

namespace Daemon

def isTurning (d : Daemon σ π) (i : Nat) : Bool := (d.connections[i]?).any (·.isTurning)

/-- Whether one connection and another have both read a level that they did not set yet. -/
def isCrossed (d : Daemon σ π) (i : Nat) : Bool :=
  d.isTurning i && (List.range d.connections.length).any fun j => j != i && d.isTurning j

/-- A connection is crossed by another at some moment of a run. -/
def Crosses (agent : Agent σ π) (d : Daemon σ π) (events : List DaemonEvent) (i : Nat) : Prop :=
  ∃ past, past <+: events ∧ (d.run agent past).isCrossed i = true

section Runs

variable {agent : Agent VirtualMachine π} {down : π → Prop} {k : Knob} {said : List String}
  {d : Daemon VirtualMachine π} {progress : Nat → Progress} {a : Nat → Interpreter.Adjustment}

lemma Tracks.isTurning (h : d.Tracks k said down progress) (hlate : ∀ i, said.length ≤ i → progress i = .after)
    (hpresent : said.length ≤ d.connections.length) {i t : Nat} (hi : progress i = .between t) :
    i < d.connections.length ∧ d.isTurning i = true := by
  have hn : i < said.length := by
    by_contra hge
    rw [hlate i (Nat.not_lt.mp hge)] at hi
    exact Progress.noConfusion hi
  have hthere : i < d.connections.length := hn.trans_le hpresent
  obtain ⟨-, hreaches⟩ := h.reaches i _ (List.getElem?_eq_getElem hthere)
  rw [hi] at hreaches
  refine ⟨hthere, ?_⟩
  rw [Daemon.isTurning, List.getElem?_eq_getElem hthere, Option.any_some, Connection.isTurning]
  generalize (d.connections[i]).phase = phase at hreaches
  cases hreaches <;> rfl

lemma tracks_run (hchats : agent.Chats down k said a) (h : d.Tracks k said down progress)
    (hbefore : ∀ i < said.length, progress i = .before) (hlate : ∀ i, said.length ≤ i → progress i = .after)
    (hpresent : said.length ≤ d.connections.length) {events : List DaemonEvent}
    (he : ∀ i octets, .receive i octets ∉ events) :
    ∃ progress', (d.run agent events).Tracks k said down progress' ∧
      said.length ≤ (d.run agent events).connections.length ∧
      Accounted (fun i => (a i).reached) (k.level d.state.devices.settings) progress' said.length
        (d.Crosses agent events) (k.level (d.run agent events).state.devices.settings) := by
  -- The induction is on the events so far: what has crossed by then has crossed at the end.
  induction events using List.reverseRecOn with
  | nil => exact ⟨progress, h, hpresent, accounted_before hbefore hlate⟩
  | append_singleton events event ih =>
    obtain ⟨progress', htracks, hthere, haccounted⟩ := ih fun i octets hmem => he i octets (List.mem_append_left _ hmem)
    have hevent : ∀ i octets, event ≠ .receive i octets := by
      rintro i octets rfl
      exact he i octets (by simp)
    obtain ⟨progress'', hnext, hturns⟩ := htracks.step hchats haccounted.late hthere hevent
    have hrun : d.run agent (events ++ [event]) = (d.run agent events).step agent event := by
      rw [run_append]
      rfl
    rw [hrun]
    refine ⟨progress'', hnext, hthere.trans (length_step_le event), haccounted.turns hturns ?_ ?_⟩
    · rintro i ⟨past, hpast, hcrossed⟩
      exact ⟨past, hpast.trans (List.prefix_append _ _), hcrossed⟩
    · intro i j t u hij hi hj
      obtain ⟨-, hturning⟩ := htracks.isTurning haccounted.late hthere hi
      obtain ⟨hj', hother⟩ := htracks.isTurning haccounted.late hthere hj
      refine ⟨events, List.prefix_append _ _, ?_⟩
      rw [isCrossed, hturning, Bool.true_and, List.any_eq_true]
      exact ⟨j, List.mem_range.mpr hj', by simp [hij.symm, hother]⟩

end Runs

end Daemon

/-! ## Chats one after another -/

lemma getD_mem {α : Type} {l : List α} {default : α} {i : Nat} (h : i < l.length) : l.getD i default ∈ l := by
  rw [List.getD_eq_getElem l default h]
  exact List.getElem_mem h

namespace Agent

/-- The state when these were said, one after another. -/
def hear (agent : Agent σ π) (s : Agent.State σ π) (said : List String) : Agent.State σ π :=
  said.foldl (fun s text => (agent.handle (.chat text) s).2) s

lemma isLocal_of_fails {agent : Agent σ π} {down : π → Prop}
    (hl : ∀ p, agent.provider = some p → p.Fails agent.policy.replyLimit down) {s : Agent.State σ π}
    (hs : down s.provider) (said : String) : agent.IsLocal s said ∧ down (agent.askedInVain s said) := by
  refine ⟨fun p hp => (hl p hp).within hs s.conversation.turns said, ?_⟩
  unfold askedInVain
  split
  · exact hs
  · next p hp => exact (hl p hp).down hs s.conversation.turns said

/-- Each text that asks for a change asks for one of its own. -/
lemma exists_chats {agent : Agent VirtualMachine π} {down : π → Prop} {k : Knob} {said : List String}
    (hb : agent.backend = VirtualMachine.backend)
    (hl : ∀ p, agent.provider = some p → p.Fails agent.policy.replyLimit down)
    (hsaid : ∀ text ∈ said, Interpreter.knob? (.ofString text) = some k ∧
      ∃ change, Interpreter.Asks (.ofString text) k (.relative change)) :
    ∃ a, agent.Chats down k said a := by
  have hasks (i : Nat) : ∃ a, i < said.length → Interpreter.Asks (.ofString (said.getD i "")) k a := by
    by_cases hi : i < said.length
    · obtain ⟨-, change, hchange⟩ := hsaid _ (getD_mem hi)
      exact ⟨_, fun _ => hchange⟩
    · exact ⟨.absolute 0, fun h => absurd h hi⟩
  obtain ⟨a, ha⟩ := Classical.axiomOfChoice hasks
  exact ⟨a, hb, hl, fun i hi => (hsaid _ (getD_mem hi)).1, ha⟩

lemma level_hear {agent : Agent VirtualMachine π} {down : π → Prop} {k : Knob} {said : List String}
    {a : Nat → Interpreter.Adjustment} (hchats : agent.Chats down k said a) {s : Agent.State VirtualMachine π}
    (hs : s.Works down) {order : List Nat} (horder : ∀ i ∈ order, i < said.length) :
    k.level (agent.hear s (order.map (said.getD · ""))).devices.settings =
      order.foldl (fun level i => (a i).reached level) (k.level s.devices.settings) := by
  induction order generalizing s with
  | nil => rfl
  | cons i order ih =>
    have hi := horder i List.mem_cons_self
    obtain ⟨hlocal, hdown⟩ := isLocal_of_fails hchats.fails hs.down (said.getD i "")
    obtain ⟨next, hhandle, hsettings, hworks, hprovider⟩ :=
      handle_asked hchats.backend hlocal (hchats.knob i hi) hs.works (hchats.asks i hi)
    have hnext : next.Works down := ⟨hworks, hprovider ▸ hdown⟩
    have hlevel : k.level next.devices.settings = (a i).reached (k.level s.devices.settings) := by
      rw [hsettings, Knob.level_set]
    rw [List.map_cons, hear, List.foldl_cons, hhandle, List.foldl_cons, ← hlevel]
    exact ih hnext fun j hj => horder j (List.mem_cons_of_mem i hj)

end Agent

/-- Steps of one size up come to their sum, cut at 100. -/
lemma Interpreter.foldl_reached {step : Nat} (hstep : Text.inInt64 (step + 100) = true) (order : List Nat) {level : Nat}
    (h : level ≤ 100) :
    order.foldl (fun level _ => Adjustment.reached level (.relative step)) level =
      min 100 (level + order.length * step) := by
  induction order generalizing level with
  | nil => simp [h]
  | cons i order ih =>
    have hsum : Text.inInt64 (level + step) = true := by
      simp only [Text.inInt64, Bool.and_eq_true, decide_eq_true_eq] at hstep ⊢
      omega
    have hone : Adjustment.reached level (.relative step) = min 100 (level + step) := by
      simp only [Adjustment.reached, Text.wrapInt64_of_inInt64 hsum, clampLevel]
      omega
    rw [List.foldl_cons, hone, ih (Nat.min_le_left _ _), List.length_cons, Nat.succ_mul]
    omega

namespace Daemon

section Runs

variable {agent : Agent VirtualMachine π} {down : π → Prop} {k : Knob} {said : List String}
  {d : Daemon VirtualMachine π}

/-- Who has nothing left to do has set the level. -/
lemma Tracks.after {progress : Nat → Progress} (h : d.Tracks k said down progress)
    (hpresent : said.length ≤ d.connections.length)
    (hend : ∀ c ∈ d.connections, ∀ request stage, c.phase = .serving request stage → stage.remaining = 0) :
    ∀ i < said.length, progress i = .after := by
  intro i hi
  by_contra hne
  have hthere := hi.trans_le hpresent
  obtain ⟨-, hreaches⟩ := h.reaches i _ (List.getElem?_eq_getElem hthere)
  obtain ⟨stage, hphase, hunfinished⟩ := Connection.serving_of_reaches hreaches hne
  have hremaining := hend _ (List.getElem_mem hthere) _ _ hphase
  cases stage with
  | finished response => exact hunfinished response rfl
  | _ => simp [Stage.remaining] at hremaining

lemma tracks_arrived
    (hd : d.connections.map (·.phase) = said.map fun text => .serving (.chat text) (.arrived (.chat text)))
    (hin : ∀ c ∈ d.connections, c.incoming = []) (hs : d.state.Works down) :
    d.Tracks k said down fun i => if i < said.length then .before else .after := by
  refine ⟨fun i c hc => ⟨hin c (List.mem_of_getElem? hc), ?_⟩, hs⟩
  have hphase : (d.connections.map (·.phase))[i]? = some c.phase := by rw [List.getElem?_map, hc, Option.map_some]
  rw [hd, List.getElem?_map, Option.map_eq_some_iff] at hphase
  obtain ⟨text, htext, hphase⟩ := hphase
  have hi : i < said.length := (List.getElem?_eq_some_iff.mp htext).1
  have hget : said.getD i "" = text := by rw [List.getD_eq_getElem?_getD, htext, Option.getD_some]
  rw [if_pos hi, hget, ← hphase]
  exact .arrived

/-- When chats are answered side by side, each for a step up or down of one knob, the level they come to is the one that
some of them come to one after another, and every chat that no other crossed is among these. -/
theorem levels_side_by_side (hb : agent.backend = VirtualMachine.backend)
    (hl : ∀ p, agent.provider = some p → p.Fails agent.policy.replyLimit down)
    (hsaid : ∀ text ∈ said, Interpreter.knob? (.ofString text) = some k ∧
      ∃ change, Interpreter.Asks (.ofString text) k (.relative change))
    (hd : d.connections.map (·.phase) = said.map fun text => .serving (.chat text) (.arrived (.chat text)))
    (hin : ∀ c ∈ d.connections, c.incoming = []) (hs : d.state.Works down) {events : List DaemonEvent}
    (he : ∀ i octets, .receive i octets ∉ events)
    (hend : ∀ c ∈ (d.run agent events).connections, ∀ request stage,
      c.phase = .serving request stage → stage.remaining = 0) :
    let level := k.level (d.run agent events).state.devices.settings
    ∃ order : List Nat, order.Nodup ∧ (∀ i ∈ order, i < said.length) ∧ order.length ≤ said.length ∧
      level = k.level (agent.hear d.state (order.map (said.getD · ""))).devices.settings ∧
      (said ≠ [] → order ≠ []) ∧ (∀ i < said.length, ¬ d.Crosses agent events i → i ∈ order) ∧
      ((∀ i < said.length, ¬ d.Crosses agent events i) → order.Perm (List.range said.length)) ∧
      ∀ step : Nat, Text.inInt64 (step + 100) = true → d.state.devices.InRange →
        (∀ text ∈ said, Interpreter.Asks (.ofString text) k (.relative step)) →
        level = min 100 (k.level d.state.devices.settings + order.length * step) := by
  intro level
  obtain ⟨a, hchats⟩ := Agent.exists_chats hb hl hsaid
  have hlength : d.connections.length = said.length := by simpa using congrArg List.length hd
  obtain ⟨progress, htracks, hthere, haccounted⟩ := tracks_run hchats (tracks_arrived hd hin hs)
    (fun i hi => if_pos hi) (fun i hi => if_neg (Nat.not_lt.mpr hi)) hlength.ge he
  have hafter := htracks.after hthere hend
  obtain ⟨order, hserial, hne⟩ := haccounted.level
  have hbound : ∀ i ∈ order, i < said.length := fun i hi => (hserial.done i hi).1
  have hall : ∀ i < said.length, ¬ d.Crosses agent events i → i ∈ order := fun i hi => hserial.kept i hi (hafter i hi)
  refine ⟨order, hserial.nodup, hbound, hserial.length_le, ?_, ?_, hall, ?_, ?_⟩
  · rw [Agent.level_hear hchats hs hbound]
    exact hserial.level
  · intro hsome
    have hpos : 0 < said.length := List.length_pos_iff.mpr hsome
    exact hne ⟨0, hpos, hafter 0 hpos⟩
  · intro hapart
    exact hserial.perm_range fun i hi => hall i hi (hapart i hi)
  · intro step hstep hrange hsame
    have hchange : ∀ i ∈ order, a i = .relative step := by
      intro i hi
      have hone := Interpreter.asks_iff.mp (hchats.asks i (hbound i hi))
      have hmem : said.getD i "" ∈ said := getD_mem (hbound i hi)
      have hother := Interpreter.asks_iff.mp (hsame _ hmem)
      exact Option.some.inj (hone.symm.trans hother)
    rw [← Interpreter.foldl_reached hstep order (hrange.level_le k)]
    refine hserial.level.trans (List.foldl_ext _ _ _ fun level i hi => ?_)
    rw [hchange i hi]

end Runs

open Agent (patientAgent greeting)

/-- Three clients that said so, at a machine at half its volume. -/
def crowd (text : String) : Daemon VirtualMachine Script :=
  { started (greeting 0) with
    connections := List.replicate 3 { Connection.opened with phase := .serving (.chat text) (.arrived (.chat text)) } }

/-- The first two clients read the volume before either sets it, and the third comes when they are done. -/
def meetings : List DaemonEvent :=
  [0, 1, 0, 1, 0, 0, 1, 1, 2, 2, 2, 2].map .advance

theorem levels_side_by_side_crossed :
    ∃ order : List Nat, order.Nodup ∧ (∀ i ∈ order, i < 3) ∧ order.length ≤ 3 ∧ 2 ∈ order ∧
      ((crowd "Volume up").run patientAgent.alone meetings).state.devices.settings.volume =
        min 100 (50 + order.length * 10) := by
  have hup : Interpreter.knob? (.ofString "Volume up") = some .volume := by decide +kernel
  have hstep : Interpreter.Asks (.ofString "Volume up") .volume (.relative (10 : Nat)) :=
    .up (by decide +kernel) (by decide +kernel) (by decide +kernel) (by decide +kernel)
  have hsame : ∀ text ∈ List.replicate 3 "Volume up", text = "Volume up" := fun text h => List.eq_of_mem_replicate h
  have hsaid : ∀ text ∈ List.replicate 3 "Volume up", Interpreter.knob? (.ofString text) = some .volume ∧
      ∃ change, Interpreter.Asks (.ofString text) .volume (.relative change) := by
    intro text h
    rw [hsame text h]
    exact ⟨hup, _, hstep⟩
  have halone : ∀ p, patientAgent.alone.provider = some p →
      p.Fails patientAgent.alone.policy.replyLimit fun _ => True := nofun
  have hphases : (crowd "Volume up").connections.map (·.phase) =
      (List.replicate 3 "Volume up").map fun text => .serving (.chat text) (.arrived (.chat text)) := rfl
  have hin : ∀ c ∈ (crowd "Volume up").connections, c.incoming = [] := by simp [crowd, Connection.opened]
  have hworks : (crowd "Volume up").state.Works fun _ => True := ⟨rfl, trivial⟩
  have hevents : ∀ i octets, .receive i octets ∉ meetings := by simp [meetings]
  have hdone : ((crowd "Volume up").run patientAgent.alone meetings).connections.all (fun c => match c.phase with
      | .serving _ stage => stage.remaining == 0
      | _ => true) = true := by decide +kernel
  have hend : ∀ c ∈ ((crowd "Volume up").run patientAgent.alone meetings).connections, ∀ request stage,
      c.phase = .serving request stage → stage.remaining = 0 := by
    intro c hc request stage hphase
    simpa [hphase] using List.all_eq_true.mp hdone c hc
  have hapart : ∀ past ∈ meetings.inits, ((crowd "Volume up").run patientAgent.alone past).isCrossed 2 = false := by
    decide +kernel
  obtain ⟨order, hnodup, hbound, hlength, -, -, hkept, -, hlevel⟩ :=
    levels_side_by_side rfl halone hsaid hphases hin hworks hevents hend
  refine ⟨order, hnodup, hbound, hlength, hkept 2 (by decide) ?_, ?_⟩
  · rintro ⟨past, hpast, hcrossed⟩
    rw [hapart past ((List.mem_inits past meetings).mpr hpast)] at hcrossed
    exact Bool.false_ne_true hcrossed
  · have hrange : (crowd "Volume up").state.devices.InRange := VirtualMachine.inRange_withLevels 50 50
    exact hlevel 10 (by decide) hrange fun text h => hsame text h ▸ hstep

/-- Two clients connect and say the same, and each reads the volume before the other sets it. -/
def crossing : List DaemonEvent :=
  [.accept, .accept, .receive 0 (Frame.wrap (Request.chat "Volume up").encode),
    .receive 1 (Frame.wrap (Request.chat "Volume up").encode)] ++
  ([0, 0, 0, 1, 1, 1, 0, 0, 1, 1, 0, 0, 0, 1, 1, 1].map DaemonEvent.advance)

/-- Both are told that the volume is set, and one step of the two is lost. -/
theorem level_lost :
    Interpreter.Asks (.ofString "Volume up") .volume (.relative 10) ∧
    ((started (greeting 0)).run patientAgent.alone crossing).connections.map (·.outgoing) =
      List.replicate 2
        (Frame.wrap (Response.chat .ok "Setting volume to 60%" (some (.ok "Volume set to 60%"))).encode) ∧
    ((started (greeting 0)).run patientAgent.alone crossing).state.devices.settings.volume = 60 ∧
    ∀ said, said.Perm (List.replicate 2 "Volume up") →
      (patientAgent.alone.hear (greeting 0) said).devices.settings.volume = 70 := by
  refine ⟨.up (by decide +kernel) (by decide +kernel) (by decide +kernel) (by decide +kernel), by decide +kernel,
    by decide +kernel, ?_⟩
  intro said hsaid
  rw [List.perm_replicate.mp hsaid]
  decide +kernel

end Daemon

end DeviceAgent
