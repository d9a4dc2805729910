import DeviceAgent.Device.Linux
import DeviceAgent.Device.Virtual
import DeviceAgent.Proofs.Framing
import DeviceAgent.Proofs.Handling

/-!
# The gate in front of shutdown and reboot

Which commands the devices get in a run, and what a request has to say for a shutdown or reboot among them.
-/

namespace DeviceAgent

variable {σ π : Type}

/-! ## Results that are there -/

lemma exists_of_map_eq_ok {ε α β : Type} {f : α → β} {x : Except ε α} {b : β} (h : x.map f = .ok b) :
    ∃ a, x = .ok a ∧ f a = b := by
  cases x with
  | error e => simp [Except.map] at h
  | ok a => exact ⟨a, rfl, by simpa [Except.map] using h⟩

lemma exists_of_bind_eq_ok {ε α β : Type} {x : Except ε α} {f : α → Except ε β} {b : β} (h : x >>= f = .ok b) :
    ∃ a, x = .ok a ∧ f a = .ok b := by
  cases x with
  | error e => simp [bind, Except.bind] at h
  | ok a => exact ⟨a, rfl, h⟩

/-! ## Commands one after another -/

namespace Backend

def following (backend : Backend σ) (commands : List Command) (s : σ) : σ :=
  commands.foldl (fun s c => (backend.perform c s).2) s

@[simp] lemma following_nil (backend : Backend σ) (s : σ) : backend.following [] s = s := rfl

lemma following_singleton (backend : Backend σ) (c : Command) (s : σ) :
    backend.following [c] s = (backend.perform c s).2 := rfl

lemma following_append (backend : Backend σ) (commands more : List Command) (s : σ) :
    backend.following (commands ++ more) s = backend.following more (backend.following commands s) :=
  List.foldl_append

lemma following_logged (backend : Backend σ) (commands : List Command) (s : List Command × σ) :
    backend.logged.following commands s = (commands.reverse ++ s.1, backend.following commands s.2) := by
  induction commands generalizing s with
  | nil => rfl
  | cons c commands ih =>
    have hcons : backend.logged.following (c :: commands) s =
        backend.logged.following commands (c :: s.1, (backend.perform c s.2).2) := rfl
    rw [hcons, ih, List.reverse_cons, List.append_assoc]
    rfl

end Backend

namespace Command

/-- The power action that a command is. -/
def powerAction? : Command → Option PowerAction
  | .power .poweroff => some .poweroff
  | .power .reboot => some .reboot
  | _ => none

/-- A command that takes the machine away neither itself nor by a program of that name. -/
def IsTame : Command → Prop
  | .power .poweroff | .power .reboot => False
  | .launch app => isPowerCommand app = false
  | _ => True

lemma IsTame.powerAction? {c : Command} (h : c.IsTame) : c.powerAction? = none := by
  cases c with
  | power event => cases event <;> first | rfl | exact h.elim
  | _ => rfl

end Command

/-- A state of devices that tame commands lead to. -/
def Backend.Leads (backend : Backend σ) (s next : σ) : Prop :=
  ∃ commands : List Command, next = backend.following commands s ∧ ∀ c ∈ commands, c.IsTame

namespace Backend.Leads

variable {backend : Backend σ} {s t u : σ}

lemma refl (s : σ) : backend.Leads s s := ⟨[], rfl, nofun⟩

lemma trans (h : backend.Leads s t) (h' : backend.Leads t u) : backend.Leads s u := by
  obtain ⟨commands, rfl, hc⟩ := h
  obtain ⟨more, rfl, hm⟩ := h'
  refine ⟨commands ++ more, (backend.following_append _ _ _).symm, ?_⟩
  intro c hmem
  obtain hmem | hmem := List.mem_append.mp hmem
  · exact hc c hmem
  · exact hm c hmem

lemma perform {c : Command} (hc : c.IsTame) (s : σ) : backend.Leads s (backend.perform c s).2 := by
  refine ⟨[c], rfl, ?_⟩
  intro c' hmem
  rw [List.mem_singleton.mp hmem]
  exact hc

end Backend.Leads

/-! ## What actions and replies command -/

namespace Action

/-- An action that launches no program that takes the machine away. -/
def IsTame : Action → Prop
  | .launch app => isPowerCommand app = false
  | _ => True

lemma leads_report {backend : Backend σ} {c : Command} (hc : c.IsTame) (s : σ) (failure : String)
    (success : c.Reply → Outcome) : backend.Leads s (report backend s c failure success).device := by
  have hp : backend.Leads s (backend.perform c s).2 := .perform hc s
  unfold report
  split
  all_goals
    rename_i h
    rw [h] at hp
    exact hp

lemma leads_inform (backend : Backend σ) (s : σ) (topic : Topic) :
    backend.Leads s (inform backend s topic).device := by
  cases topic with
  | power =>
    have hp : backend.Leads s (backend.perform .onAcPower s).2 := .perform (c := .onAcPower) trivial s
    unfold inform
    dsimp only
    split
    all_goals
      rename_i h
      rw [h] at hp
    · refine hp.trans ?_
      apply leads_report
      trivial
    · exact hp
  | _ =>
    apply leads_report
    trivial

lemma leads_perform (backend : Backend σ) (delay : Nat) (spare : Bool) (s : σ) {action : Action} (h : action.IsTame) :
    backend.Leads s (action.perform backend delay spare s).device := by
  cases action with
  | schedule power => cases spare <;> exact .refl s
  | info topic => exact leads_inform backend s topic
  | _ =>
    apply leads_report
    exact h

lemma appOf_tame {intent : Intent} {app : String} (h : appOf intent = .ok app) : isPowerCommand app = false := by
  unfold appOf at h
  split at h
  · dsimp only at h
    split at h
    · simp at h
    · split at h
      · simp at h
      · rename_i hp
        obtain rfl := Except.ok.inj h
        simpa using hp
  · simp at h

/-- Only an intent that is dangerous makes a schedule, and no intent launches a program that takes the machine
away. -/
lemma of_ofIntent {intent : Intent} {action : Action} (h : ofIntent intent = .ok action) :
    action.IsTame ∧ ∀ power, action = .schedule power → intent.isDangerous = true := by
  unfold ofIntent at h
  split at h
  case h_8 hn =>
    obtain ⟨power, -, rfl⟩ := exists_of_map_eq_ok h
    exact ⟨trivial, fun _ _ => by simp [Intent.isDangerous, hn]⟩
  case h_9 hn =>
    obtain rfl := Except.ok.inj h
    exact ⟨trivial, fun _ _ => by simp [Intent.isDangerous, hn]⟩
  case h_10 =>
    obtain ⟨app, ha, rfl⟩ := exists_of_map_eq_ok h
    exact ⟨appOf_tame ha, fun _ hp => Action.noConfusion hp⟩
  case h_6 =>
    obtain rfl := Except.ok.inj h
    exact ⟨trivial, fun _ hp => Action.noConfusion hp⟩
  case h_7 =>
    obtain rfl := Except.ok.inj h
    exact ⟨trivial, fun _ hp => Action.noConfusion hp⟩
  case h_12 => simp at h
  all_goals
    obtain ⟨_, -, rfl⟩ := exists_of_map_eq_ok h
    exact ⟨trivial, fun _ hp => Action.noConfusion hp⟩

end Action

lemma Intent.leads_execute (backend : Backend σ) (delay : Nat) (spare : Bool) (s : σ) (intent : Intent) :
    backend.Leads s (intent.execute backend delay spare s).device := by
  unfold Intent.execute
  cases ha : Action.ofIntent intent with
  | error refusal => exact .refl s
  | ok action => exact Action.leads_perform backend delay spare s (Action.of_ofIntent ha).1

lemma Interpreter.leads_level {backend : Backend σ} {read : σ → Except DeviceError Nat × σ} {s : σ}
    (h : backend.Leads s (read s).2) (u : Utterance) (dial : Dial) :
    backend.Leads s (level u dial read s).2 := by
  unfold level
  split
  · exact .refl s
  · exact h

lemma Interpreter.leads_interpret (backend : Backend σ) (confirm : Bool) (clock : Clock) (said : String) (s : σ) :
    backend.Leads s (interpret backend confirm clock said s).2 := by
  have ha := answers_interpret backend confirm clock said s
  generalize interpret backend confirm clock said s = answer at ha ⊢
  cases ha with
  | brightness => exact leads_level (.perform (c := .brightness) trivial s) _ _
  | volume => exact leads_level (.perform (c := .volume) trivial s) _ _
  | battery => exact .perform (c := .battery) trivial s
  | _ => exact .refl s

/-- The handling of requests gives tame commands only. -/
lemma Agent.leads_advance (agent : Agent σ π) (s : Agent.State σ π) (stage : Stage) :
    agent.backend.Leads s.devices (agent.advance s stage).2.devices := by
  cases stage with
  | arrived request =>
    cases request with
    | chat said =>
      simp only [advance, start]
      split <;> exact .refl _
    | action value =>
      simp only [advance, start]
      split <;> exact .refl _
    | status => exact .perform (c := .systemInfo) trivial s.devices
    | clear => exact .refl _
  | consulting said history =>
    simp only [advance, consult]
    split <;> exact .refl _
  | interpreting said => exact Interpreter.leads_interpret _ _ _ _ _
  | replied said reply remote =>
    simp only [advance, log]
    repeat' split
    all_goals exact .refl _
  | acting response intent => exact intent.leads_execute _ _ _ _
  | _ => exact .refl _

lemma Connection.leads_advance (agent : Agent σ π) (stopping : Bool) (c : Connection) (s : Agent.State σ π) :
    agent.backend.Leads s.devices (c.advance agent stopping s).2.devices := by
  obtain ⟨hs, -⟩ | ⟨request, stage, -, -, hs⟩ := c.advance_cases agent stopping s
  · rw [hs]
    exact .refl _
  · rw [hs]
    exact agent.leads_advance s stage

/-! ## Runs -/

def Note.powerActions (journal : List (Nat × Note)) : List PowerAction :=
  (journal.map Prod.snd).filterMap Note.action?

namespace Daemon

/-- Commands by which the devices came to where they are: each power action among them, or still to come, was
scheduled. -/
structure Accounts (agent : Agent σ π) (first d : Daemon σ π) (journal : List (Nat × Note))
    (commands : List Command) : Prop where
  devices : d.state.devices = agent.backend.following commands first.state.devices
  power : commands.filterMap Command.powerAction? ++ d.state.scheduled =
    first.state.scheduled ++ Note.powerActions journal
  launch : ∀ app, .launch app ∈ commands → isPowerCommand app = false

lemma accounts_step {agent : Agent σ π} {first d : Daemon σ π} {journal : List (Nat × Note)}
    {commands : List Command} (h : Accounts agent first d journal commands) (event : DaemonEvent) :
    ∃ more, Accounts agent first (d.step agent event) (journal ++ d.notes agent event) (commands ++ more) := by
  obtain ⟨⟨clock, spare, hs⟩, hn⟩ | ⟨-, hs, hn⟩ | ⟨i, c, -, -, hs, hn⟩ := d.state_step agent event
  · refine ⟨[], ?_⟩
    rw [hn, List.append_nil, List.append_nil]
    exact ⟨hs ▸ h.devices, hs ▸ h.power, h.launch⟩
  · rw [hn, List.append_nil]
    cases hp : d.state.scheduled with
    | nil =>
      have hf : agent.fire d.state = d.state := by simp [Agent.fire, hp]
      rw [hf] at hs
      refine ⟨[], ?_⟩
      rw [List.append_nil]
      exact ⟨hs ▸ h.devices, hs ▸ h.power, h.launch⟩
    | cons action rest =>
      have hf : agent.fire d.state = { d.state with
          devices := agent.backend.following [.power action.event] d.state.devices, scheduled := rest } := by
        simp [Agent.fire, hp, Backend.following_singleton]
      have hpower : Command.powerAction? (.power action.event) = some action := by cases action <;> rfl
      refine ⟨[.power action.event], ?_, ?_, ?_⟩
      · rw [hs, hf, Backend.following_append, ← h.devices]
      · rw [hs, hf, ← h.power, hp]
        simp [hpower]
      · intro app happ
        exact h.launch app (by simpa using happ)
  · obtain ⟨more, hl, ht⟩ := c.leads_advance agent d.isStopping d.state
    have hquiet : more.filterMap Command.powerAction? = [] :=
      List.filterMap_eq_nil_iff.mpr fun command hc => (ht command hc).powerAction?
    refine ⟨more, ?_, ?_, ?_⟩
    · rw [hs, hl, Backend.following_append, ← h.devices]
    · have hnotes : (d.notes agent event).map Prod.snd = c.notes agent d.state := by
        rw [hn, List.map_map]
        exact List.map_id _
      rw [hs, c.scheduled_advance, List.filterMap_append, hquiet, List.append_nil, ← List.append_assoc, h.power]
      rw [Note.powerActions, Note.powerActions, List.map_append, List.filterMap_append, hnotes, List.append_assoc]
    · intro app happ
      obtain happ | happ := List.mem_append.mp happ
      · exact h.launch app happ
      · exact ht _ happ

lemma accounts_run (agent : Agent σ π) (d : Daemon σ π) (events : List DaemonEvent) :
    ∃ commands, Accounts agent d (d.run agent events) (d.journal agent events) commands := by
  have hfirst : ∃ commands, Accounts agent d d [] commands := ⟨[], rfl, by simp [Note.powerActions], nofun⟩
  have hstep : ∀ d' journal event, (∃ commands, Accounts agent d d' journal commands) →
      ∃ commands, Accounts agent d (d'.step agent event) (journal ++ d'.notes agent event) commands := by
    intro d' journal event ⟨commands, h⟩
    obtain ⟨more, h⟩ := accounts_step h event
    exact ⟨commands ++ more, h⟩
  exact run_induction agent hstep hfirst events

lemma scheduled_fires (agent : Agent σ π) (n : Nat) (d : Daemon σ π) :
    (d.run agent (List.replicate n .fire)).state.scheduled = d.state.scheduled.drop n := by
  induction n generalizing d with
  | zero => rfl
  | succ n ih =>
    have hrun : d.run agent (List.replicate (n + 1) .fire) =
        (d.step agent .fire).run agent (List.replicate n .fire) := rfl
    have hfire : (d.step agent .fire).state.scheduled = d.state.scheduled.drop 1 := by
      simp only [step, Agent.fire]
      cases h : d.state.scheduled <;> simp [h]
    rw [hrun, ih, hfire, List.drop_drop, Nat.add_comm]

end Daemon

/-! ## The programs of a Linux machine -/

namespace LinuxMachine

/-- A program with its arguments that is none of those that change the power state. -/
def IsPlainRun (run : List String) : Prop := ∀ program, run.head? = some program → program ∉ powerCommands

/-- From one machine to the next, only such programs are started. -/
def Starts (allowed : List String → Prop) (m next : LinuxMachine) : Prop :=
  ∀ run ∈ next.started, run ∈ m.started ∨ allowed run

namespace Starts

variable {allowed : List String → Prop} {m n k : LinuxMachine}

lemma refl (m : LinuxMachine) : Starts allowed m m := fun _ hr => Or.inl hr

lemma trans (h : Starts allowed m n) (h' : Starts allowed n k) : Starts allowed m k := by
  intro run hr
  obtain hr | hr := h' run hr
  · exact h run hr
  · exact Or.inr hr

lemma append {run : List String} (h : n.started = m.started ++ [run]) (hr : allowed run) : Starts allowed m n := by
  intro run' hr'
  rw [h] at hr'
  obtain hr' | hr' := List.mem_append.mp hr'
  · exact Or.inl hr'
  · rw [List.mem_singleton.mp hr']
    exact Or.inr hr

lemma capture {program : String} {args : List String} (h : allowed (program :: args)) (m : LinuxMachine) :
    Starts allowed m (m.capture program args).2 := by
  unfold LinuxMachine.capture
  split
  · dsimp only
    split <;> exact append rfl h
  · exact refl m
  · exact refl m

lemma spawn {program : String} (h : allowed [program]) (m : LinuxMachine) :
    Starts allowed m (m.spawn program).2 := by
  unfold LinuxMachine.spawn
  split
  · exact append rfl h
  · exact refl m

end Starts

lemma not_mem_powerCommands {name : String} (h : isPowerCommand name = false) : name ∉ powerCommands := by
  have hall : ∀ name ∈ powerCommands, isPowerCommand name = true := by decide
  intro hm
  rw [hall name hm] at h
  exact Bool.noConfusion h

lemma isPlainRun_cons {program : String} (h : program ∉ powerCommands) (args : List String) :
    IsPlainRun (program :: args) := by
  intro program' hp
  obtain rfl : program = program' := by simpa using hp
  exact h

lemma starts_launch (m : LinuxMachine) (app : String) : Starts IsPlainRun m (m.launch app).2 := by
  have hgtk : ∀ (m : LinuxMachine) (name : String), Starts IsPlainRun m (m.call "gtk-launch" [name]).2 :=
    fun m name => Starts.capture (isPlainRun_cons (by decide) _) m
  unfold launch
  dsimp only
  split
  · exact .refl m
  · split
    · exact .refl m
    · rename_i hname
      have hspawn : Starts IsPlainRun m (m.spawn (Text.trimmed app)).2 :=
        .spawn (isPlainRun_cons (not_mem_powerCommands (by simpa using hname)) _) m
      split
      · rename_i hs
        rw [hs] at hspawn
        exact hspawn
      · rename_i m' hs
        rw [hs] at hspawn
        have hcall := hgtk m' (Text.trimmed app)
        split
        · rename_i hc
          rw [hc] at hcall
          exact hspawn.trans hcall
        · rename_i hc
          rw [hc] at hcall
          split
          · exact (hspawn.trans hcall).trans (hgtk _ _)
          · exact hspawn.trans hcall

lemma started_setBrightness {m next : LinuxMachine} {level : Nat} (h : m.setBrightness level = .ok next) :
    next.started = m.started := by
  obtain ⟨device, -, h⟩ := exists_of_bind_eq_ok h
  obtain ⟨full, -, h⟩ := exists_of_bind_eq_ok h
  split at h
  · obtain rfl := Except.ok.inj h
    rfl
  · simp [throw, throwThe, MonadExceptOf.throw] at h

/-- The program for a power event, which is one of those that change the power state. -/
def powerRun (event : PowerEvent) : List String := ["systemctl", powerVerb event]

lemma starts_perform (c : Command) (m : LinuxMachine) :
    Starts (fun run => IsPlainRun run ∨ ∃ event, c = .power event ∧ run = powerRun event) m (perform c m).2 := by
  have hplain : ∀ {next : LinuxMachine}, Starts IsPlainRun m next →
      Starts (fun run => IsPlainRun run ∨ ∃ event, c = .power event ∧ run = powerRun event) m next := by
    intro next h run hr
    exact (h run hr).imp_right Or.inl
  cases c with
  | power event => exact .capture (Or.inr ⟨event, rfl, rfl⟩) m
  | launch app => exact hplain (m.starts_launch app)
  | setBrightness level =>
    simp only [perform]
    split
    · rename_i next hn
      intro run hr
      rw [started_setBrightness hn] at hr
      exact Or.inl hr
    · exact .refl m
  | volume => exact hplain (.capture (isPlainRun_cons (by decide) _) m)
  | setVolume level => exact hplain (.capture (isPlainRun_cons (by decide) _) m)
  | muted => exact hplain (.capture (isPlainRun_cons (by decide) _) m)
  | setMuted on => exact hplain (.capture (isPlainRun_cons (by decide) _) m)
  | wifi => exact hplain (.capture (isPlainRun_cons (by decide) _) m)
  | setWifi on => exact hplain (.capture (isPlainRun_cons (by decide) _) m)
  | bluetooth => exact hplain (.capture (isPlainRun_cons (by decide) _) m)
  | setBluetooth on => exact hplain (.capture (isPlainRun_cons (by decide) _) m)
  | _ => exact .refl m

lemma starts_following (commands : List Command) (m : LinuxMachine) :
    Starts (fun run => IsPlainRun run ∨ ∃ event, .power event ∈ commands ∧ run = powerRun event) m
      (backend.following commands m) := by
  induction commands generalizing m with
  | nil => exact .refl m
  | cons c commands ih =>
    intro run hr
    obtain hr | hp | ⟨event, he, rfl⟩ := ih (perform c m).2 run hr
    · obtain hr | hp | ⟨event, rfl, rfl⟩ := starts_perform c m run hr
      · exact Or.inl hr
      · exact Or.inr (Or.inl hp)
      · exact Or.inr (Or.inr ⟨event, List.mem_cons_self, rfl⟩)
    · exact Or.inr (Or.inl hp)
    · exact Or.inr (Or.inr ⟨event, List.mem_cons_of_mem _ he, rfl⟩)

end LinuxMachine

/-! ## The gate -/

/-- A request that may take the machine away: an action of that name, or a chat by which the user confirms. -/
def Request.Warrants : Request → Prop
  | .chat said => Text.contains (Text.lowered said) "confirm" = true
  | .action value => ∃ intent, Intent.ofJson? value = some intent ∧ (intent.name = "shutdown" ∨ intent.name = "reboot")
  | .status | .clear => False

/-- A handling schedules no power action, or one that its request warrants. -/
def Handling.IsGated (h : Handling) : Prop :=
  h.notes.filterMap Note.action? = [] ∨
    ∃ action, h.notes.filterMap Note.action? = [action] ∧ h.request.Warrants

lemma filterMap_asked {said : String} {notes : List Note} (h : Asked said notes) :
    notes.filterMap Note.action? = [] := by
  cases h <;> rfl

lemma filterMap_enacted {intent : Intent} {notes : List Note} (h : Enacted intent notes) :
    notes.filterMap Note.action? = [] ∨
      ∃ action, notes.filterMap Note.action? = [action] ∧ intent.isDangerous = true := by
  cases h with
  | now => exact Or.inl rfl
  | later action ha => exact Or.inr ⟨action, rfl, (Action.of_ofIntent ha).2 action rfl⟩

lemma Agent.Handled.isGated {agent : Agent σ π} (hc : agent.policy.confirmDangerous = true) {request : Request}
    {notes : List Note} {response : Response} (h : agent.Handled request notes response)
    (r : Option Response) : (⟨request, notes, r⟩ : Handling).IsGated := by
  unfold Handling.IsGated
  cases h with
  | said ha =>
    left
    simp [filterMap_asked ha, Note.action?]
  | done ha hp he =>
    rw [List.filterMap_append, List.filterMap_append, filterMap_asked ha]
    obtain he | ⟨action, he, hd⟩ := filterMap_enacted he
    · exact Or.inl he
    · exact Or.inr ⟨action, he, hp hc hd⟩
  | action hi he =>
    obtain he | ⟨action, he, hd⟩ := filterMap_enacted he
    · exact Or.inl he
    · exact Or.inr ⟨action, he, _, hi, by simpa [Intent.isDangerous] using hd⟩
  | _ => exact Or.inl rfl

lemma Agent.Course.isGated {agent : Agent σ π} (hc : agent.policy.confirmDangerous = true) {request : Request}
    {notes : List Note} {stage : Stage} (h : agent.Course request notes stage) :
    (⟨request, notes, none⟩ : Handling).IsGated := by
  cases stage with
  | arrived r =>
    obtain ⟨-, rfl⟩ := h
    exact Or.inl rfl
  | consulting said history =>
    obtain ⟨-, rfl, -⟩ := h
    exact Or.inl rfl
  | awaiting said completion wait => exact Or.inl (filterMap_asked h.2)
  | interpreting said => exact Or.inl (filterMap_asked h.2)
  | replied said reply remote => exact Or.inl (filterMap_asked h.2.1)
  | acting response intent =>
    cases response with
    | none =>
      obtain ⟨value, -, -, rfl⟩ := h
      exact Or.inl rfl
    | some text =>
      obtain ⟨said, asked, -, ha, rfl, -⟩ := h
      left
      simp [filterMap_asked ha, Note.action?]
  | reporting system =>
    obtain ⟨-, rfl⟩ := h
    exact Or.inl rfl
  | finished response => exact Handled.isGated hc h none

lemma Agent.Allows.isGated {agent : Agent σ π} (hc : agent.policy.confirmDangerous = true) {h : Handling}
    (ha : agent.Allows h) : h.IsGated := by
  obtain ⟨request, notes, response⟩ := h
  cases response with
  | some response => exact Handled.isGated hc ha _
  | none =>
    obtain ⟨stage, ha⟩ := ha
    exact Course.isGated hc ha

/-- Where dangerous intents are to be confirmed, no request schedules more than one power action, and none that it does
not warrant: the notes of a connection come in handlings, each with the notes of one request and no other, and only the
last is not answered yet. Whatever the devices and the provider, the devices get each scheduled power action as one
command once its time has come, no other shutdown or reboot, and no launch of a program that changes the power state; a
Linux machine starts such a program for a power event only. -/
theorem Daemon.power_gated (base : Backend σ) (provider : Option (Provider π)) (policy : Policy)
    (s : Agent.State (List Command × σ) π) (events : List DaemonEvent) :
    let agent : Agent (List Command × σ) π := ⟨base.logged, provider, { policy with confirmDangerous := true }⟩
    let journal := (started s).journal agent events
    let now := ((started s).run agent events).state
    (∀ i, ∃ handlings : List Handling, notesOn i journal = handlings.flatMap Handling.transcript ∧
      (∀ h ∈ handlings.dropLast, h.response.isSome = true) ∧
      ∀ h ∈ handlings, agent.Allows h ∧ (∀ note ∈ h.notes, note.IsInner) ∧ h.IsGated) ∧
    (∃ commands : List Command,
      now.devices = (commands.reverse ++ s.devices.1, base.following commands s.devices.2) ∧
      commands.filterMap Command.powerAction? ++ now.scheduled = s.scheduled ++ Note.powerActions journal ∧
      ∀ app, .launch app ∈ commands → isPowerCommand app = false) ∧
    ((started s).run agent (events ++ List.replicate now.scheduled.length .fire)).state.scheduled = [] ∧
    ∀ (commands : List Command) (m : LinuxMachine),
      ∀ run ∈ (LinuxMachine.backend.following commands m).started, run ∈ m.started ∨
        (∀ program, run.head? = some program → program ∉ powerCommands) ∨
        ∃ event, .power event ∈ commands ∧ run = ["systemctl", LinuxMachine.powerVerb event] := by
  intro agent journal now
  refine ⟨?_, ?_, ?_, ?_⟩
  · intro i
    obtain ⟨handlings, hn, ha, hanswered, -⟩ := handlings_of_run agent s events i
    exact ⟨handlings, hn, hanswered, fun h hh => ⟨ha h hh, (ha h hh).isInner, (ha h hh).isGated rfl⟩⟩
  · obtain ⟨commands, hd, hp, hl⟩ := accounts_run agent (started s) events
    rw [Backend.following_logged] at hd
    exact ⟨commands, hd, hp, hl⟩
  · rw [run_append, scheduled_fires]
    exact List.drop_length
  · exact LinuxMachine.starts_following

namespace Daemon

/-- Devices in memory, a fresh conversation and no power action that waits. -/
def logged : Agent.State (List Command × VirtualMachine) Unit where
  conversation := .empty 20
  devices := ([], .initial)
  provider := ()
  scheduled := []
  clock := ⟨12, 0, 0, Fin.last 6, Fin.last 11, 28, 2025, 60⟩
  spare := true

/-- A client asks for a shutdown twice over one connection, and confirms only the first time. -/
def twoShutdowns : List DaemonEvent :=
  [.accept, .receive 0 (Frame.wrap (Text.octets "\x7b\"cmd\":\"chat\",\"text\":\"confirm shutdown\"\x7d") ++
    Frame.wrap (Text.octets "\x7b\"cmd\":\"chat\",\"text\":\"shut down\"\x7d"))] ++
    List.replicate 16 (.advance 0) ++ [.fire]

/-- The second request schedules nothing although the first one confirmed. -/
theorem power_gated_twice :
    let agent : Agent (List Command × VirtualMachine) Unit :=
      ⟨VirtualMachine.backend.logged, none, ⟨true, 65536, 30000, 5, "none"⟩⟩
    ∃ first second : Handling,
      notesOn 0 ((started logged).journal agent twoShutdowns) = first.transcript ++ second.transcript ∧
      first.request = .chat "confirm shutdown" ∧ first.notes.filterMap Note.action? = [.poweroff] ∧
      second.request = .chat "shut down" ∧ second.notes.filterMap Note.action? = [] ∧
      ((started logged).run agent twoShutdowns).state.devices.1.filterMap Command.powerAction? = [.poweroff] := by
  intro agent
  have hwords : ((notesOn 0 ((started logged).journal agent twoShutdowns)).filterMap Note.request?).map Request.said? =
      [some "confirm shutdown", some "shut down"] := by decide +kernel
  have hactions : (notesOn 0 ((started logged).journal agent twoShutdowns)).filterMap Note.action? = [.poweroff] := by
    decide +kernel
  obtain ⟨hcut, -⟩ :=
    power_gated VirtualMachine.backend (none : Option (Provider Unit)) agent.policy logged twoShutdowns
  obtain ⟨handlings, hn, -, hh⟩ := hcut 0
  rw [hn] at hwords hactions
  obtain ⟨first, second, rfl, hfirst, hsecond⟩ := Agent.exists_two_chats (fun h hm => (hh h hm).1) hwords
  have hquiet : second.notes.filterMap Note.action? = [] := by
    obtain hnone | ⟨-, -, hwarrants⟩ := (hh second (by simp)).2.2
    · exact hnone
    · rw [hsecond] at hwarrants
      exact absurd hwarrants (by simp only [Request.Warrants]; decide +kernel)
  have htaken : ∀ request, Note.action? (.taken request) = none := fun _ => rfl
  have hanswered : ∀ response, Note.action? (.answered response) = none := fun _ => rfl
  refine ⟨first, second, by rw [hn]; simp, hfirst, ?_, hsecond, hquiet, ?_⟩
  · simpa [Handling.filterMap_transcript htaken hanswered, hquiet] using hactions
  · decide +kernel

end Daemon

end DeviceAgent
