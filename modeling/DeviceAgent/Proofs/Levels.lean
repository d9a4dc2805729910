import DeviceAgent.Device.Virtual
import DeviceAgent.Proofs.PowerGate

/-!
# Levels in range

Wherever a level comes from, the devices are at 0 to 100 percent. What requests command is cut before it gets to a
device, and each machine cuts what it is given by other ways.
-/

namespace DeviceAgent

variable {σ π : Type}

/-! ## What requests command -/

/-- A command whose level, if it has one, is at most 100. -/
def Command.InRange : Command → Prop
  | .setBrightness level | .setVolume level => level ≤ 100
  | _ => True

namespace Backend

/-- A backend that cuts the levels that it is given. -/
def clamped (backend : Backend σ) : Backend σ where
  perform
    | .setBrightness level, s => backend.perform (.setBrightness (min level 100)) s
    | .setVolume level, s => backend.perform (.setVolume (min level 100)) s
    | c, s => backend.perform c s

lemma perform_clamped (backend : Backend σ) {c : Command} (h : c.InRange) (s : σ) :
    backend.clamped.perform c s = backend.perform c s := by
  cases c with
  | setBrightness level =>
    have hsame (n : Nat) (hn : n = level) : (backend.perform (.setBrightness n) s : Except DeviceError Unit × σ) =
        backend.perform (.setBrightness level) s := by rw [hn]
    exact hsame _ (Nat.min_eq_left h)
  | setVolume level =>
    have hsame (n : Nat) (hn : n = level) : (backend.perform (.setVolume n) s : Except DeviceError Unit × σ) =
        backend.perform (.setVolume level) s := by rw [hn]
    exact hsame _ (Nat.min_eq_left h)
  | _ => rfl

end Backend

namespace Action

def InRange : Action → Prop
  | .brightness level | .volume level => level ≤ 100
  | _ => True

lemma levelOf_le {intent : Intent} {level : Nat} (h : levelOf intent = .ok level) : level ≤ 100 := by
  unfold levelOf at h
  split at h
  · simp at h
  · split at h
    · rw [← Except.ok.inj h]
      exact clampLevel_le _
    · simp at h

/-- Whatever number or text an intent gives, its action is in range. -/
lemma inRange_of_ofIntent {intent : Intent} {action : Action} (h : ofIntent intent = .ok action) : action.InRange := by
  unfold ofIntent at h
  split at h
  case h_1 =>
    obtain ⟨level, hl, rfl⟩ := exists_of_map_eq_ok h
    exact levelOf_le hl
  case h_2 =>
    obtain ⟨level, hl, rfl⟩ := exists_of_map_eq_ok h
    exact levelOf_le hl
  case h_6 =>
    obtain rfl := Except.ok.inj h
    trivial
  case h_7 =>
    obtain rfl := Except.ok.inj h
    trivial
  case h_9 =>
    obtain rfl := Except.ok.inj h
    trivial
  case h_12 => simp at h
  all_goals
    obtain ⟨_, -, rfl⟩ := exists_of_map_eq_ok h
    trivial

lemma report_clamped (backend : Backend σ) (s : σ) {c : Command} (h : c.InRange) (failure : String)
    (success : c.Reply → Outcome) :
    report backend.clamped s c failure success = report backend s c failure success := by
  unfold report
  rw [backend.perform_clamped h]

lemma perform_clamped (backend : Backend σ) (delay : Nat) (spare : Bool) (s : σ) {action : Action}
    (h : action.InRange) :
    action.perform backend.clamped delay spare s = action.perform backend delay spare s := by
  cases action with
  | brightness level => exact report_clamped backend s (c := .setBrightness level) h _ _
  | volume level => exact report_clamped backend s (c := .setVolume level) h _ _
  | info topic => cases topic <;> rfl
  | _ => rfl

end Action

lemma Intent.execute_clamped (backend : Backend σ) (delay : Nat) (spare : Bool) (s : σ) (intent : Intent) :
    intent.execute backend.clamped delay spare s = intent.execute backend delay spare s := by
  unfold Intent.execute
  cases ha : Action.ofIntent intent with
  | error refusal => rfl
  | ok action => exact action.perform_clamped backend delay spare s (Action.inRange_of_ofIntent ha)

lemma Interpreter.interpret_clamped (backend : Backend σ) (confirm : Bool) (clock : Clock) (said : String) (s : σ) :
    interpret backend.clamped confirm clock said s = interpret backend confirm clock said s := by
  unfold interpret
  rfl

namespace Agent

def clamped (agent : Agent σ π) : Agent σ π := { agent with backend := agent.backend.clamped }

/-- No stage can tell whether levels are cut behind it. -/
lemma advance_clamped (agent : Agent σ π) (s : Agent.State σ π) (stage : Stage) :
    agent.clamped.advance s stage = agent.advance s stage := by
  cases stage with
  | arrived request => cases request <;> rfl
  | interpreting said =>
    simp only [advance, interpret, clamped, Interpreter.interpret_clamped]
  | acting response intent =>
    simp only [advance, act, clamped, Intent.execute_clamped]
  | _ => rfl

end Agent

lemma Connection.advance_clamped (agent : Agent σ π) (stopping : Bool) (c : Connection) (s : Agent.State σ π) :
    c.advance agent.clamped stopping s = c.advance agent stopping s := by
  unfold Connection.advance
  simp only [agent.advance_clamped]
  rfl

namespace Daemon

lemma step_clamped (agent : Agent σ π) (d : Daemon σ π) (event : DaemonEvent) :
    d.step agent.clamped event = d.step agent event := by
  cases event with
  | advance i => simp only [step, Daemon.advance, Connection.advance_clamped]
  | _ => rfl

lemma run_clamped (agent : Agent σ π) (d : Daemon σ π) (events : List DaemonEvent) :
    d.run agent.clamped events = d.run agent events := by
  induction events generalizing d with
  | nil => rfl
  | cons event events ih =>
    calc d.run agent.clamped (event :: events)
      _ = (d.step agent event).run agent.clamped events := by
        rw [← step_clamped]
        rfl
      _ = d.run agent (event :: events) := ih (d.step agent event)

/-- What every command keeps, every run keeps. -/
lemma keeps_run (agent : Agent σ π) {P : σ → Prop} (hP : ∀ c s, P s → P (agent.backend.perform c s).2)
    {d : Daemon σ π} (h : P d.state.devices) (events : List DaemonEvent) : P (d.run agent events).state.devices := by
  obtain ⟨commands, ha⟩ := accounts_run agent d events
  rw [ha.devices]
  generalize d.state.devices = s at h
  clear ha
  induction commands generalizing s with
  | nil => exact h
  | cons c commands ih => exact ih _ (hP c s h)

/-- Whatever the devices are, the levels that requests command are in range. -/
lemma inRange_of_logged (base : Backend σ) (provider : Option (Provider π)) (policy : Policy)
    (s : Agent.State (List Command × σ) π) (events : List DaemonEvent) :
    ∀ c ∈ ((started s).run ⟨base.logged, provider, policy⟩ events).state.devices.1, c ∈ s.devices.1 ∨ c.InRange := by
  let agent : Agent (List Command × σ) π := ⟨base.logged, provider, policy⟩
  let Logged (devices : List Command × σ) : Prop := ∀ c ∈ devices.1, c ∈ s.devices.1 ∨ c.InRange
  have hkeeps (command : Command) (devices : List Command × σ) (hd : Logged devices) :
      Logged (agent.clamped.backend.perform command devices).2 := by
    have hlog (c : Command) (hc : c.InRange) (rest : σ) : Logged (c :: devices.1, rest) := by
      intro c' hmem
      obtain rfl | hmem := List.mem_cons.mp hmem
      · exact Or.inr hc
      · exact hd c' hmem
    cases command with
    | setBrightness level => exact hlog (.setBrightness (min level 100)) (Nat.min_le_right _ _) _
    | setVolume level => exact hlog (.setVolume (min level 100)) (Nat.min_le_right _ _) _
    | _ =>
      apply hlog
      trivial
  have hfirst : Logged (started s).state.devices := fun c hc => Or.inl hc
  -- A log behind the cut has levels in range whoever commands, and the agent does the same with it and without.
  have hrun : Logged ((started s).run agent.clamped events).state.devices := keeps_run _ hkeeps hfirst events
  rw [run_clamped] at hrun
  exact hrun

end Daemon

/-! ## The virtual machine -/

namespace VirtualMachine

structure InRange (m : VirtualMachine) : Prop where
  brightness : m.settings.brightness ≤ 100
  volume : m.settings.volume ≤ 100

lemma inRange_withLevels (brightness volume : Nat) : (withLevels brightness volume).InRange :=
  ⟨Nat.min_le_right _ _, Nat.min_le_right _ _⟩

namespace InRange

variable {m : VirtualMachine}

lemma apply (h : m.InRange) (c : Command) : (m.apply c).2.InRange := by
  cases c with
  | setBrightness level => exact ⟨clampLevel_le _, h.volume⟩
  | setVolume level => exact ⟨h.brightness, clampLevel_le _⟩
  | launch name =>
    simp only [VirtualMachine.apply]
    split <;> exact ⟨h.brightness, h.volume⟩
  | _ => exact ⟨h.brightness, h.volume⟩

lemma perform (h : m.InRange) (c : Command) : (VirtualMachine.perform c m).2.InRange := by
  have hcounted : ({ m with calls := m.calls + 1 } : VirtualMachine).InRange := ⟨h.brightness, h.volume⟩
  unfold VirtualMachine.perform
  dsimp only
  split
  · exact hcounted
  · exact hcounted.apply c

lemma perform_dials (hf : m.failing = false) :
    (VirtualMachine.perform .brightness m).1 = .ok m.settings.brightness ∧
      (VirtualMachine.perform .volume m).1 = .ok m.settings.volume := by
  simp [VirtualMachine.perform, VirtualMachine.apply, hf]

lemma le_of_brightness (h : m.InRange) {n : Nat} (hn : (VirtualMachine.perform .brightness m).1 = .ok n) : n ≤ 100 := by
  unfold VirtualMachine.perform at hn
  dsimp only at hn
  split at hn
  · simp at hn
  · rw [← Except.ok.inj hn]
    exact h.brightness

lemma le_of_volume (h : m.InRange) {n : Nat} (hn : (VirtualMachine.perform .volume m).1 = .ok n) : n ≤ 100 := by
  unfold VirtualMachine.perform at hn
  dsimp only at hn
  split at hn
  · simp at hn
  · rw [← Except.ok.inj hn]
    exact h.volume

end InRange

/-- A move of a daemon on a virtual machine that is commanded from outside too, and made to fail. -/
inductive Move where
  | event (e : DaemonEvent)
  | command (c : Command)
  | fail (failing : Bool)

def move (agent : Agent VirtualMachine π) (d : Daemon VirtualMachine π) : Move → Daemon VirtualMachine π
  | .event e => d.step agent e
  | .command c => { d with state.devices := (perform c d.state.devices).2 }
  | .fail failing => { d with state.devices.failing := failing }

lemma inRange_move {agent : Agent VirtualMachine π} (hb : agent.backend = backend) {d : Daemon VirtualMachine π}
    (h : d.state.devices.InRange) (mv : Move) : (move agent d mv).state.devices.InRange := by
  cases mv with
  | event e =>
    have hkeeps (c : Command) (m : VirtualMachine) (hm : m.InRange) : (agent.backend.perform c m).2.InRange := by
      rw [hb]
      exact hm.perform c
    exact Daemon.keeps_run agent hkeeps h [e]
  | command c => exact h.perform c
  | fail failing => exact ⟨h.brightness, h.volume⟩

lemma inRange_moves {agent : Agent VirtualMachine π} (hb : agent.backend = backend) {d : Daemon VirtualMachine π}
    (h : d.state.devices.InRange) (moves : List Move) : (moves.foldl (move agent) d).state.devices.InRange := by
  induction moves generalizing d with
  | nil => exact h
  | cons mv moves ih => exact ih (inRange_move hb h mv)

end VirtualMachine

/-! ## The Linux machine -/

lemma lookup_map_replace {files : List (FilePath × List UInt8)} {path : FilePath} (bs : List UInt8)
    (h : (files.lookup path).isSome = true) :
    (files.map fun (p, old) => (p, if p = path then bs else old)).lookup path = some bs := by
  induction files with
  | nil => simp at h
  | cons entry rest ih =>
    obtain ⟨p, old⟩ := entry
    rw [List.map_cons, List.lookup_cons]
    by_cases hp : path = p
    · simp [hp]
    · have hother : (path == p) = false := beq_false_of_ne hp
      rw [List.lookup_cons, hother] at h
      rw [hother]
      exact ih h

lemma FileTree.octets?_write {t next : FileTree} {path : FilePath} {bs : List UInt8} (h : t.write path bs = .ok next) :
    next.octets? path = some bs := by
  unfold FileTree.write at h
  split at h
  · next hthere =>
    rw [← Except.ok.inj h]
    exact lookup_map_replace bs hthere
  · next hmissing =>
    split at h
    · simp at h
    split at h
    · simp at h
    split at h
    · have hnone : t.files.lookup path = none := Option.not_isSome_iff_eq_none.mp hmissing
      rw [← Except.ok.inj h]
      simp [octets?, List.lookup_append, hnone]
    · simp at h

namespace LinuxMachine

lemma fullBrightness_ok {m : LinuxMachine} {device : FilePath} {full : Int} (h : m.fullBrightness device = .ok full) :
    m.readInt (device ++ ["max_brightness"]) = .ok full ∧ 0 < full := by
  obtain ⟨n, hn, h⟩ := exists_of_bind_eq_ok h
  split at h
  · simp [throw, throwThe, MonadExceptOf.throw] at h
  · next hpos =>
    obtain rfl := Except.ok.inj h
    exact ⟨hn, Int.not_le.mp hpos⟩

/-- A level is written as the raw value for the full brightness that the device gives. -/
lemma setBrightness_ok {m next : LinuxMachine} {level : Nat} (h : m.setBrightness level = .ok next) :
    ∃ device full, m.backlight = .ok device ∧ m.readInt (device ++ ["max_brightness"]) = .ok full ∧ 0 < full ∧
      next.files.octets? (device ++ ["brightness"]) = some (Text.octets (toString (rawBrightness full level))) := by
  obtain ⟨device, hdevice, h⟩ := exists_of_bind_eq_ok h
  obtain ⟨full, hfull, h⟩ := exists_of_bind_eq_ok h
  obtain ⟨hread, hpos⟩ := fullBrightness_ok hfull
  refine ⟨device, full, hdevice, hread, hpos, ?_⟩
  split at h
  · next files hwrite =>
    obtain rfl := Except.ok.inj h
    exact FileTree.octets?_write hwrite
  · simp [throw, throwThe, MonadExceptOf.throw] at h

lemma rawBrightness_mem {full : Int} (hf : 0 < full) (level : Nat) :
    0 ≤ rawBrightness full level ∧ rawBrightness full level ≤ full := by
  have hle : (clampLevel level : Int) ≤ 100 := by exact_mod_cast clampLevel_le level
  have hnonneg : 0 ≤ full * clampLevel level := Int.mul_nonneg (Int.le_of_lt hf) (Int.natCast_nonneg _)
  have hmul : full * clampLevel level ≤ full * 100 := Int.mul_le_mul_of_nonneg_left hle (Int.le_of_lt hf)
  unfold rawBrightness
  rw [Int.tdiv_eq_ediv_of_nonneg hnonneg]
  omega

lemma rawBrightness_mono {full : Int} (hf : 0 < full) {level level' : Nat} (h : level ≤ level') :
    rawBrightness full level ≤ rawBrightness full level' := by
  have hlevel : (clampLevel level : Int) ≤ clampLevel level' := by
    exact_mod_cast clampLevel_mono (Int.ofNat_le.mpr h)
  have hnonneg (n : Nat) : 0 ≤ full * (n : Int) := Int.mul_nonneg (Int.le_of_lt hf) (Int.natCast_nonneg n)
  have hmul : full * clampLevel level ≤ full * clampLevel level' :=
    Int.mul_le_mul_of_nonneg_left hlevel (Int.le_of_lt hf)
  unfold rawBrightness
  rw [Int.tdiv_eq_ediv_of_nonneg (hnonneg _), Int.tdiv_eq_ediv_of_nonneg (hnonneg _)]
  omega

lemma rawBrightness_zero (full : Int) : rawBrightness full 0 = 0 := by
  rw [rawBrightness, clampLevel_natCast, Nat.zero_min]
  simp

lemma rawBrightness_full (full : Int) {level : Nat} (h : 100 ≤ level) : rawBrightness full level = full := by
  have hfull : clampLevel level = 100 := by rw [clampLevel_natCast, Nat.min_eq_right h]
  rw [rawBrightness, hfull]
  exact Int.mul_tdiv_cancel full (by decide)

/-- The mixer is started with a level in range, or not at all. -/
lemma started_setVolume (m : LinuxMachine) (level : Nat) :
    (perform (.setVolume level) m).2.started = m.started ∨
      (perform (.setVolume level) m).2.started =
        m.started ++ [["amixer", "set", "Master", toString (min level 100) ++ "%"]] := by
  have hlevel : clampLevel level = min level 100 := clampLevel_natCast level
  simp only [perform, call, hlevel]
  unfold capture
  split
  · right
    dsimp only
    split <;> rfl
  · exact Or.inl rfl
  · exact Or.inl rfl

lemma brightness_le {m : LinuxMachine} {n : Nat} (h : m.brightness = .ok n) : n ≤ 100 := by
  obtain ⟨device, -, h⟩ := exists_of_bind_eq_ok h
  obtain ⟨current, -, h⟩ := exists_of_bind_eq_ok h
  obtain ⟨full, -, h⟩ := exists_of_bind_eq_ok h
  rw [← Except.ok.inj h]
  exact clampLevel_le _

lemma mixerLevel?_le {output : String} {n : Nat} (h : mixerLevel? output = some n) : n ≤ 100 := by
  obtain ⟨chunk, -, hchunk⟩ := List.exists_of_findSome?_eq_some h
  obtain ⟨digits, -, hdigits⟩ := Option.bind_eq_some_iff.mp hchunk
  obtain ⟨level, -, rfl⟩ := Option.map_eq_some_iff.mp hdigits
  exact clampLevel_le level

lemma volume_le {m : LinuxMachine} {n : Nat} (h : (perform .volume m).1 = .ok n) : n ≤ 100 := by
  obtain ⟨text, -, htext⟩ := exists_of_bind_eq_ok h
  split at htext
  · next level hlevel =>
    obtain rfl := Except.ok.inj htext
    exact mixerLevel?_le hlevel
  · simp at htext

end LinuxMachine

/-! ## Every machine -/

/-- Whatever requests, providers and commands from outside do, levels are in range. What requests command has a level of
at most 100, on any devices. A virtual machine from any two levels on is in range after all moves, and reads so. A Linux
machine writes a raw value from 0 to that of full brightness, in the order of the levels; it starts the mixer with at
most 100 percent, and what it reads is at most 100. -/
theorem levels_in_range (base : Backend σ) (provider : Option (Provider π)) (policy : Policy) :
    (∀ (s : Agent.State (List Command × σ) π) (events : List DaemonEvent),
      ∀ c ∈ ((Daemon.started s).run ⟨base.logged, provider, policy⟩ events).state.devices.1,
        c ∈ s.devices.1 ∨ c.InRange) ∧
    (∀ (s : Agent.State VirtualMachine π) (brightness volume : Nat) (moves : List VirtualMachine.Move),
      let agent : Agent VirtualMachine π := ⟨VirtualMachine.backend, provider, policy⟩
      let first := Daemon.started { s with devices := .withLevels brightness volume }
      let m := (moves.foldl (VirtualMachine.move agent) first).state.devices
      m.InRange ∧ (∀ n, (VirtualMachine.perform .brightness m).1 = .ok n → n ≤ 100) ∧
        (∀ n, (VirtualMachine.perform .volume m).1 = .ok n → n ≤ 100) ∧
        (m.failing = false → (VirtualMachine.perform .brightness m).1 = .ok m.settings.brightness ∧
          (VirtualMachine.perform .volume m).1 = .ok m.settings.volume)) ∧
    (∀ m : LinuxMachine,
      (∀ level next, m.setBrightness level = .ok next → ∃ device full,
        m.backlight = .ok device ∧ m.readInt (device ++ ["max_brightness"]) = .ok full ∧ 0 < full ∧
        next.files.octets? (device ++ ["brightness"]) =
          some (Text.octets (toString (LinuxMachine.rawBrightness full level)))) ∧
      (∀ level, (LinuxMachine.perform (.setVolume level) m).2.started = m.started ∨
        (LinuxMachine.perform (.setVolume level) m).2.started =
          m.started ++ [["amixer", "set", "Master", toString (min level 100) ++ "%"]]) ∧
      (∀ n, (LinuxMachine.perform .brightness m).1 = .ok n → n ≤ 100) ∧
      ∀ n, (LinuxMachine.perform .volume m).1 = .ok n → n ≤ 100) ∧
    ∀ full, 0 < full → ∀ level,
      (0 ≤ LinuxMachine.rawBrightness full level ∧ LinuxMachine.rawBrightness full level ≤ full) ∧
      (∀ level', level ≤ level' → LinuxMachine.rawBrightness full level ≤ LinuxMachine.rawBrightness full level') ∧
      LinuxMachine.rawBrightness full 0 = 0 ∧ (100 ≤ level → LinuxMachine.rawBrightness full level = full) := by
  refine ⟨Daemon.inRange_of_logged base provider policy, ?_, ?_, ?_⟩
  · intro s brightness volume moves agent first m
    have hfirst : first.state.devices.InRange := VirtualMachine.inRange_withLevels brightness volume
    have hm : m.InRange := VirtualMachine.inRange_moves rfl hfirst moves
    exact ⟨hm, fun n hn => hm.le_of_brightness hn, fun n hn => hm.le_of_volume hn,
      VirtualMachine.InRange.perform_dials⟩
  · intro m
    refine ⟨fun level next h => LinuxMachine.setBrightness_ok h, m.started_setVolume, ?_, ?_⟩
    · exact fun n hn => LinuxMachine.brightness_le hn
    · exact fun n hn => LinuxMachine.volume_le hn
  · intro full hf level
    refine ⟨LinuxMachine.rawBrightness_mem hf level, ?_, LinuxMachine.rawBrightness_zero full, ?_⟩
    · exact fun level' h => LinuxMachine.rawBrightness_mono hf h
    · exact fun h => LinuxMachine.rawBrightness_full full h

/-- A machine with one panel, whose mixer shows more than there is. -/
def panel : LinuxMachine where
  files := ⟨[(["sys", "class", "backlight", "panel", "max_brightness"], Text.octets "1500\n"),
    (["sys", "class", "backlight", "panel", "brightness"], Text.octets "300\n")], []⟩
  entries := []
  programs := [⟨"amixer", ⟨Text.octets "Front Left: Playback 99 [250%] [on]", 0⟩, []⟩]
  info := VirtualMachine.info
  started := []

lemma backlight_panel : panel.backlight = .ok ["sys", "class", "backlight", "panel"] := by
  have hsorted : ["panel", "panel"].mergeSort = ["panel", "panel"] := List.mergeSort_of_pairwise (by decide)
  have hnames : panel.files.entries.filterMap (fun e => if LinuxMachine.backlightClass.isPrefixOf e then
      e[LinuxMachine.backlightClass.length]? else none) = ["panel", "panel"] := by decide +kernel
  have hlist : panel.files.list LinuxMachine.backlightClass = ["panel", "panel"].mergeSort.eraseDups := by
    unfold FileTree.list
    rw [hnames]
    rfl
  unfold LinuxMachine.backlight
  rw [hlist, hsorted]
  rfl

theorem levels_in_range_panel :
    (∃ next, panel.setBrightness 40 = .ok next ∧ ∃ device full, panel.backlight = .ok device ∧
      panel.readInt (device ++ ["max_brightness"]) = .ok full ∧ next.files.octets? (device ++ ["brightness"]) =
        some (Text.octets (toString (LinuxMachine.rawBrightness full 40)))) ∧
    (LinuxMachine.rawBrightness 1500 40 ≤ LinuxMachine.rawBrightness 1500 60 ∧
      LinuxMachine.rawBrightness 1500 200 = 1500) ∧
    (∃ n, (LinuxMachine.perform .brightness panel).1 = .ok n ∧ n ≤ 100) ∧
    (∃ n, (LinuxMachine.perform .volume panel).1 = .ok n ∧ n ≤ 100) ∧
    (VirtualMachine.perform .brightness (.withLevels 255 7)).1 = .ok 100 := by
  obtain ⟨-, hvirtual, hlinux, hraw⟩ := levels_in_range VirtualMachine.backend (none : Option (Provider Unit))
    ⟨true, 65536, 30000, 5, "none"⟩
  obtain ⟨hset, -, hbrightness, hvolume⟩ := hlinux panel
  obtain ⟨next, hnext⟩ : ∃ next, panel.setBrightness 40 = .ok next := by
    unfold LinuxMachine.setBrightness
    rw [backlight_panel]
    exact ⟨_, rfl⟩
  have hread : (LinuxMachine.perform .brightness panel).1 = .ok 20 := by
    unfold LinuxMachine.perform LinuxMachine.brightness
    rw [backlight_panel]
    rfl
  have hmixer : (LinuxMachine.perform .volume panel).1 = .ok 100 := by rfl
  obtain ⟨device, full, hdevice, hfull, -, hwritten⟩ := hset 40 next hnext
  have hcut := hvirtual ⟨.empty 20, .initial, (), [], ⟨12, 0, 0, 0, 0, 1, 2025, 60⟩, true⟩ 255 7 []
  exact ⟨⟨next, hnext, device, full, hdevice, hfull, hwritten⟩,
    ⟨(hraw 1500 (by decide) 40).2.1 60 (by decide), (hraw 1500 (by decide) 200).2.2.2 (by decide)⟩,
    ⟨20, hread, hbrightness 20 hread⟩, ⟨100, hmixer, hvolume 100 hmixer⟩, (hcut.2.2.2 rfl).1⟩

end DeviceAgent
