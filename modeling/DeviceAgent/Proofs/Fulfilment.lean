import DeviceAgent.Device.Virtual
import DeviceAgent.Proofs.PowerGate
import DeviceAgent.Proofs.Words
import Mathlib.Tactic.SplitIfs

/-!
# What intents do to a virtual machine

Every intent asks for one change. Carrying it out on a virtual machine makes that change and says so, or makes
none and says that it failed.
-/

namespace DeviceAgent

variable {σ π : Type}

/-! ## Commands to the virtual machine -/

/-- A command that only looks something up. -/
def Command.IsReading : Command → Prop
  | .brightness | .volume | .muted | .wifi | .bluetooth | .battery | .onAcPower | .systemInfo | .listApps => True
  | _ => False

namespace VirtualMachine

/-- A machine apart from the count of its commands and the switch that makes them fail. -/
def rested (m : VirtualMachine) : VirtualMachine := { m with calls := 0, failing := false }

/-- A command fails without an effect, or does what it does on a machine that is not failing. -/
lemma perform_cases (c : Command) (m : VirtualMachine) :
    (∃ e next, perform c m = (.error e, next) ∧ next.rested = m.rested) ∨
      ∃ reply next, perform c m = (.ok reply, next) ∧ m.rested.apply c = (.ok reply, next.rested) := by
  by_cases hf : m.failing
  · left
    rw [perform, if_pos hf]
    exact ⟨offline, _, rfl, rfl⟩
  · rw [perform, if_neg hf]
    cases c with
    | launch app =>
      simp only [apply, rested]
      cases findApp? m.apps app with
      | none => exact Or.inl ⟨_, _, rfl, rfl⟩
      | some app => exact Or.inr ⟨_, _, rfl, rfl⟩
    | _ => exact Or.inr ⟨_, _, rfl, rfl⟩

lemma apply_reading {c : Command} (hc : c.IsReading) (m : VirtualMachine) : (m.apply c).2 = m := by
  cases c <;> first | rfl | exact hc.elim

/-- Looking something up changes nothing but the count. -/
lemma rested_perform_reading {c : Command} (hc : c.IsReading) (m : VirtualMachine) :
    (perform c m).2.rested = m.rested := by
  obtain ⟨e, next, hp, hr⟩ | ⟨reply, next, hp, hr⟩ := perform_cases c m
  · rw [hp, hr]
  · have hsame := apply_reading hc m.rested
    rw [hr] at hsame
    rw [hp]
    exact hsame

end VirtualMachine

/-! ## What intents ask for -/

/-- What requests can change: the machine, and the power actions that are to take place. -/
structure Effects where
  machine : VirtualMachine
  scheduled : List PowerAction

def Agent.State.effects (s : Agent.State VirtualMachine π) : Effects := ⟨s.devices.rested, s.scheduled⟩

/-- An intent is fulfilled, as a message says, by one change: the one that its name and its parameters ask for. -/
inductive Intent.Fulfilled (intent : Intent) : String → Effects → Effects → Prop where
  | brightness {n : Int} (e : Effects) (hname : intent.name = "brightness")
      (hlevel : (intent.param? ["level", "value"]).bind Action.level? = some n) :
      Fulfilled intent ("Brightness set to " ++ Action.percent (clampLevel n)) e
        { e with machine.settings.brightness := clampLevel n }
  | volume {n : Int} (e : Effects) (hname : intent.name = "volume")
      (hlevel : (intent.param? ["level", "value"]).bind Action.level? = some n) :
      Fulfilled intent ("Volume set to " ++ Action.percent (clampLevel n)) e
        { e with machine.settings.volume := clampLevel n }
  | mute {on : Bool} (e : Effects) (hname : intent.name = "mute")
      (hon : (intent.param? ["muted", "mute"]).elim (some true) Json.bool? = some on) :
      Fulfilled intent (if on then "Muted" else "Unmuted") e { e with machine.settings.muted := on }
  | wifi {on : Bool} (e : Effects) (hname : intent.name = "wifi")
      (hon : (intent.param? ["enabled", "enable"]).bind Json.bool? = some on) :
      Fulfilled intent (if on then "WiFi enabled" else "WiFi disabled") e { e with machine.settings.wifi := on }
  | bluetooth {on : Bool} (e : Effects) (hname : intent.name = "bluetooth")
      (hon : (intent.param? ["enabled", "enable"]).bind Json.bool? = some on) :
      Fulfilled intent (if on then "Bluetooth enabled" else "Bluetooth disabled") e
        { e with machine.settings.bluetooth := on }
  | suspend (e : Effects) (hname : intent.name = "suspend") :
      Fulfilled intent "Suspended" e { e with machine.events := e.machine.events ++ [.suspend] }
  | hibernate (e : Effects) (hname : intent.name = "hibernate") :
      Fulfilled intent "Hibernating" e { e with machine.events := e.machine.events ++ [.hibernate] }
  | shutdown (e : Effects) (hname : intent.name = "shutdown")
      (hreboot : (intent.param? ["reboot"]).elim (some false) Json.bool? = some false) :
      Fulfilled intent "Shutting down..." e { e with scheduled := e.scheduled ++ [.poweroff] }
  | reboot (e : Effects)
      (hname : intent.name = "reboot" ∨
        intent.name = "shutdown" ∧ (intent.param? ["reboot"]).bind Json.bool? = some true) :
      Fulfilled intent "Rebooting..." e { e with scheduled := e.scheduled ++ [.reboot] }
  | launch {text app : String} (e : Effects) (hname : intent.name = "launch")
      (htext : (intent.param? ["app", "name"]).bind Json.string? = some text)
      (happ : e.machine.apps.find? (fun installed =>
        Text.contains (Text.lowered installed) (Text.lowered (Text.trimmed text))) = some app) :
      Fulfilled intent ("Launched " ++ Text.trimmed text) e { e with machine.launched := e.machine.launched ++ [app] }
  | info (message : String) (e : Effects) (hname : intent.name = "info") : Fulfilled intent message e e

/-- What an action changes when it succeeds. -/
def Action.change : Action → Effects → Effects
  | .brightness level, e => { e with machine.settings.brightness := clampLevel level }
  | .volume level, e => { e with machine.settings.volume := clampLevel level }
  | .mute on, e => { e with machine.settings.muted := on }
  | .wifi on, e => { e with machine.settings.wifi := on }
  | .bluetooth on, e => { e with machine.settings.bluetooth := on }
  | .suspend, e => { e with machine.events := e.machine.events ++ [.suspend] }
  | .hibernate, e => { e with machine.events := e.machine.events ++ [.hibernate] }
  | .schedule power, e => { e with scheduled := e.scheduled ++ [power] }
  | .launch name, e =>
    { e with machine.launched := e.machine.launched ++ (VirtualMachine.findApp? e.machine.apps name).toList }
  | .info _, e => e

/-- What an intent changes when it succeeds. -/
def Intent.change (intent : Intent) (e : Effects) : Effects :=
  match Action.ofIntent intent with
  | .ok action => action.change e
  | .error _ => e

/-- An outcome is true of an intent: one that failed changed nothing, one that succeeded made the change of the intent
and fulfilled it as its message says. -/
structure Outcome.IsTrue (o : Outcome) (intent : Intent) (before after : Effects) : Prop where
  changed : after = if o.success then intent.change before else before
  fulfilled : o.success = true → intent.Fulfilled o.message before after

namespace Action

lemma level_of_levelOf {intent : Intent} {level : Nat} (h : levelOf intent = .ok level) :
    ∃ n, (intent.param? ["level", "value"]).bind level? = some n ∧ level = clampLevel n := by
  unfold levelOf at h
  split at h
  · simp at h
  · next v hv =>
    split at h
    · next n hn => exact ⟨n, by rw [hv, Option.bind_some, hn], (Except.ok.inj h).symm⟩
    · simp at h

lemma switch_of_switchOf {intent : Intent} {on : Bool} (h : switchOf intent = .ok on) :
    (intent.param? ["enabled", "enable"]).bind Json.bool? = some on := by
  unfold switchOf at h
  split at h
  · simp at h
  · next v hv =>
    split at h
    · next b hb => rw [hv, Option.bind_some, hb, Except.ok.inj h]
    · simp at h

lemma mute_of_muteOf {intent : Intent} {on : Bool} (h : muteOf intent = .ok on) :
    (intent.param? ["muted", "mute"]).elim (some true) Json.bool? = some on := by
  unfold muteOf at h
  split at h
  · next hv => rw [hv, Option.elim_none, Except.ok.inj h]
  · next v hv =>
    split at h
    · next b hb => rw [hv, Option.elim_some, hb, Except.ok.inj h]
    · simp at h

lemma reboot_of_shutdownOf {intent : Intent} {power : PowerAction} (h : shutdownOf intent = .ok power) :
    power = .poweroff ∧ (intent.param? ["reboot"]).elim (some false) Json.bool? = some false ∨
      power = .reboot ∧ (intent.param? ["reboot"]).bind Json.bool? = some true := by
  unfold shutdownOf at h
  split at h
  · next hv => exact Or.inl ⟨(Except.ok.inj h).symm, by rw [hv, Option.elim_none]⟩
  · next v hv =>
    split at h
    · next hb => exact Or.inr ⟨(Except.ok.inj h).symm, by rw [hv, Option.bind_some, hb]⟩
    · next hb => exact Or.inl ⟨(Except.ok.inj h).symm, by rw [hv, Option.elim_some, hb]⟩
    · simp at h

lemma text_of_appOf {intent : Intent} {app : String} (h : appOf intent = .ok app) :
    ∃ text, (intent.param? ["app", "name"]).bind Json.string? = some text ∧ app = Text.trimmed text := by
  unfold appOf at h
  split at h
  · next text htext =>
    dsimp only at h
    split_ifs at h
    exact ⟨text, htext, (Except.ok.inj h).symm⟩
  · simp at h

end Action

/-! ## What executions do -/

namespace VirtualMachine

lemma find?_of_findApp? {apps : List String} {text app : String} (h : findApp? apps (Text.trimmed text) = some app) :
    apps.find? (fun installed => Text.contains (Text.lowered installed) (Text.lowered (Text.trimmed text))) =
      some app := by
  simp only [findApp?, Text.trimmed, String.toList_ofList, Text.trim_trim, Option.ite_none_left_eq_some] at h
  simpa only [Text.contains, Text.lowered, Text.trimmed, String.toList_ofList] using h.2

end VirtualMachine

/-- What is left of an execution: the machine, and one more power action if it scheduled one. -/
def Execution.effects (scheduled : List PowerAction) (x : Execution VirtualMachine) : Effects :=
  ⟨x.device.rested, scheduled ++ x.scheduled.toList⟩

namespace Action

variable {intent : Intent} {m : VirtualMachine} {scheduled : List PowerAction}

lemma report_cases (m : VirtualMachine) (scheduled : List PowerAction) (c : Command) (failure : String)
    (success : c.Reply → Outcome) :
    let x := report VirtualMachine.backend m c failure success
    (x.outcome = .failed failure ∧ x.effects scheduled = ⟨m.rested, scheduled⟩) ∨
      ∃ reply machine, m.rested.apply c = (.ok reply, machine) ∧ x.outcome = success reply ∧
        x.effects scheduled = ⟨machine, scheduled⟩ := by
  dsimp only [report, VirtualMachine.backend, Execution.effects]
  obtain ⟨e, next, hp, hr⟩ | ⟨reply, next, hp, hr⟩ := VirtualMachine.perform_cases c m
  · left
    rw [hp]
    exact ⟨rfl, by rw [hr, Option.toList_none, List.append_nil]⟩
  · right
    rw [hp]
    exact ⟨reply, next.rested, hr, rfl, by rw [Option.toList_none, List.append_nil]⟩

lemma effects_report {c : Command} (hc : c.IsReading) (failure : String) (success : c.Reply → Outcome) :
    (report VirtualMachine.backend m c failure success).effects scheduled = ⟨m.rested, scheduled⟩ := by
  obtain ⟨-, he⟩ | ⟨reply, machine, ha, -, he⟩ := report_cases m scheduled c failure success
  · exact he
  · have hsame := VirtualMachine.apply_reading hc m.rested
    rw [ha] at hsame
    dsimp only at hsame
    rw [he, hsame]

lemma effects_inform (topic : Topic) :
    (inform VirtualMachine.backend m topic).effects scheduled = ⟨m.rested, scheduled⟩ := by
  cases topic with
  | power =>
    have hr := VirtualMachine.rested_perform_reading (c := .onAcPower) trivial m
    dsimp only [inform, VirtualMachine.backend]
    split
    all_goals
      rename_i h
      rw [h] at hr
    · rw [← hr]
      exact effects_report (c := .battery) trivial _ _
    · simp [Execution.effects, hr]
  | _ =>
    apply effects_report
    trivial

/-- A command that fails changes nothing, and one that succeeds what it does on a machine that is not failing. -/
lemma effects_order {c : Command} {failure success : String} {after : Effects}
    (h : ∀ reply machine, m.rested.apply c = (.ok reply, machine) → ⟨machine, scheduled⟩ = after) :
    let x := order VirtualMachine.backend m c failure success
    x.effects scheduled = if x.outcome.success then after else ⟨m.rested, scheduled⟩ := by
  dsimp only [order]
  obtain ⟨ho, he⟩ | ⟨reply, machine, ha, ho, he⟩ := report_cases m scheduled c failure fun _ => .ok success
  · rw [ho, he]
    rfl
  · rw [ho, he]
    exact h reply machine ha

/-- Carrying out an action makes its change or none. -/
lemma effects_perform (action : Action) (delay : Nat) (spare : Bool) :
    let x := action.perform VirtualMachine.backend delay spare m
    x.effects scheduled =
      if x.outcome.success then action.change ⟨m.rested, scheduled⟩ else ⟨m.rested, scheduled⟩ := by
  cases action with
  | schedule power =>
    cases spare with
    | true => rfl
    | false => exact congrArg (Effects.mk m.rested) (List.append_nil scheduled)
  | info topic =>
    dsimp only [perform]
    rw [effects_inform]
    split <;> rfl
  | launch name =>
    apply effects_order
    intro reply machine hm
    simp only [VirtualMachine.apply] at hm
    split at hm
    · next app happ =>
      obtain ⟨-, rfl⟩ := Prod.mk.inj hm
      simp [change, happ]
    · simp at hm
  | _ =>
    apply effects_order
    rintro reply machine ⟨⟩
    rfl

/-- A command fulfils an intent if its success does. -/
lemma fulfilled_order {c : Command} {failure success : String}
    (h : ∀ reply machine, m.rested.apply c = (.ok reply, machine) →
      intent.Fulfilled success ⟨m.rested, scheduled⟩ ⟨machine, scheduled⟩) :
    let x := order VirtualMachine.backend m c failure success
    x.outcome.success = true → intent.Fulfilled x.outcome.message ⟨m.rested, scheduled⟩ (x.effects scheduled) := by
  dsimp only [order]
  obtain ⟨ho, -⟩ | ⟨reply, machine, ha, ho, he⟩ := report_cases m scheduled c failure fun _ => .ok success
  · rw [ho]
    exact nofun
  · rw [ho, he]
    exact fun _ => h reply machine ha

lemma clampLevel_clampLevel (n : Int) : clampLevel (clampLevel n) = clampLevel n := by
  rw [clampLevel_natCast, Nat.min_eq_left (clampLevel_le n)]

/-- An action that succeeds fulfils the intent that asks for it. -/
lemma fulfilled_perform {action : Action} (h : ofIntent intent = .ok action) (delay : Nat) (spare : Bool) :
    let x := action.perform VirtualMachine.backend delay spare m
    x.outcome.success = true → intent.Fulfilled x.outcome.message ⟨m.rested, scheduled⟩ (x.effects scheduled) := by
  unfold ofIntent at h
  split at h
  case h_1 hname =>
    obtain ⟨level, hl, rfl⟩ := exists_of_map_eq_ok h
    obtain ⟨n, hn, rfl⟩ := level_of_levelOf hl
    apply fulfilled_order
    rintro reply machine ⟨⟩
    rw [clampLevel_clampLevel]
    exact .brightness ⟨m.rested, scheduled⟩ hname hn
  case h_2 hname =>
    obtain ⟨level, hl, rfl⟩ := exists_of_map_eq_ok h
    obtain ⟨n, hn, rfl⟩ := level_of_levelOf hl
    apply fulfilled_order
    rintro reply machine ⟨⟩
    rw [clampLevel_clampLevel]
    exact .volume ⟨m.rested, scheduled⟩ hname hn
  case h_3 hname =>
    obtain ⟨on, hm, rfl⟩ := exists_of_map_eq_ok h
    apply fulfilled_order
    rintro reply machine ⟨⟩
    exact .mute ⟨m.rested, scheduled⟩ hname (mute_of_muteOf hm)
  case h_4 hname =>
    obtain ⟨on, hs, rfl⟩ := exists_of_map_eq_ok h
    apply fulfilled_order
    rintro reply machine ⟨⟩
    cases on <;> exact .wifi ⟨m.rested, scheduled⟩ hname (switch_of_switchOf hs)
  case h_5 hname =>
    obtain ⟨on, hs, rfl⟩ := exists_of_map_eq_ok h
    apply fulfilled_order
    rintro reply machine ⟨⟩
    cases on <;> exact .bluetooth ⟨m.rested, scheduled⟩ hname (switch_of_switchOf hs)
  case h_6 hname =>
    obtain rfl := Except.ok.inj h
    apply fulfilled_order
    rintro reply machine ⟨⟩
    exact .suspend ⟨m.rested, scheduled⟩ hname
  case h_7 hname =>
    obtain rfl := Except.ok.inj h
    apply fulfilled_order
    rintro reply machine ⟨⟩
    exact .hibernate ⟨m.rested, scheduled⟩ hname
  case h_8 hname =>
    obtain ⟨power, hp, rfl⟩ := exists_of_map_eq_ok h
    cases spare with
    | false => exact nofun
    | true =>
      obtain ⟨rfl, hr⟩ | ⟨rfl, hr⟩ := reboot_of_shutdownOf hp
      · exact fun _ => .shutdown ⟨m.rested, scheduled⟩ hname hr
      · exact fun _ => .reboot ⟨m.rested, scheduled⟩ (Or.inr ⟨hname, hr⟩)
  case h_9 hname =>
    obtain rfl := Except.ok.inj h
    cases spare with
    | false => exact nofun
    | true => exact fun _ => .reboot ⟨m.rested, scheduled⟩ (Or.inl hname)
  case h_10 hname =>
    obtain ⟨app, ha, rfl⟩ := exists_of_map_eq_ok h
    obtain ⟨text, htext, rfl⟩ := text_of_appOf ha
    apply fulfilled_order
    intro reply machine hm
    simp only [VirtualMachine.apply] at hm
    split at hm
    · next app happ =>
      obtain ⟨-, rfl⟩ := Prod.mk.inj hm
      exact .launch ⟨m.rested, scheduled⟩ hname htext (VirtualMachine.find?_of_findApp? happ)
    · simp at hm
  case h_11 hname =>
    obtain ⟨topic, ht, rfl⟩ := exists_of_map_eq_ok h
    simp only [perform, effects_inform]
    exact fun _ => .info _ ⟨m.rested, scheduled⟩ hname
  case h_12 => simp at h

end Action

/-- Carrying out an intent makes a true outcome. -/
lemma Intent.isTrue_execute (intent : Intent) (delay : Nat) (spare : Bool) (m : VirtualMachine)
    (scheduled : List PowerAction) :
    let x := intent.execute VirtualMachine.backend delay spare m
    x.outcome.IsTrue intent ⟨m.rested, scheduled⟩ (x.effects scheduled) := by
  unfold Intent.execute
  cases ha : Action.ofIntent intent with
  | ok action =>
    refine ⟨?_, Action.fulfilled_perform ha delay spare⟩
    rw [change, ha]
    exact Action.effects_perform action delay spare
  | error refusal =>
    refine ⟨?_, nofun⟩
    simp [Outcome.failed, Execution.effects]

end DeviceAgent
