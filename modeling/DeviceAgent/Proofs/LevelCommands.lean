import DeviceAgent.Proofs.Levels
import DeviceAgent.Proofs.ProviderFailures
import DeviceAgent.Proofs.Words

/-!
# Commands to a dial

What a chat without a provider does to the brightness or the volume, from the words that are said to the level that the
device is at.
-/

namespace DeviceAgent

variable {σ π : Type}

/-! ## What is asked -/

/-- A level that users turn up and down. -/
inductive Knob where
  | brightness
  | volume
deriving DecidableEq, Repr

namespace Knob

def dial : Knob → Interpreter.Dial
  | .brightness => Interpreter.brightnessDial
  | .volume => Interpreter.volumeDial

def name : Knob → String
  | .brightness => "brightness"
  | .volume => "volume"

/-- The change that a direction word alone makes. -/
def step : Knob → Int
  | .brightness => 20
  | .volume => 10

/-- The level for "min". -/
def least : Knob → Int
  | .brightness => 10
  | .volume => 0

@[simp] lemma name_dial (k : Knob) : k.dial.name = k.name := by cases k <;> rfl

@[simp] lemma step_dial (k : Knob) : k.dial.step = k.step := by cases k <;> rfl

@[simp] lemma least_dial (k : Knob) : k.dial.least = k.least := by cases k <;> rfl

def title : Knob → String
  | .brightness => "Brightness"
  | .volume => "Volume"

def level : Knob → DeviceSettings → Nat
  | .brightness, s => s.brightness
  | .volume, s => s.volume

def set : Knob → Nat → DeviceSettings → DeviceSettings
  | .brightness, level, s => { s with brightness := level }
  | .volume, level, s => { s with volume := level }

def read : Knob → Backend σ → σ → Except DeviceError Nat × σ
  | .brightness, backend => backend.perform .brightness
  | .volume, backend => backend.perform .volume

def write : Knob → Nat → Backend σ → σ → Except DeviceError Unit × σ
  | .brightness, level, backend => backend.perform (.setBrightness level)
  | .volume, level, backend => backend.perform (.setVolume level)

def action : Knob → Nat → Action
  | .brightness => .brightness
  | .volume => .volume

@[simp] lemma level_set (k : Knob) (level : Nat) (s : DeviceSettings) : k.level (k.set level s) = level := by
  cases k <;> rfl

end Knob

namespace Interpreter

/-- The knob whose branch an utterance reaches, if it reaches one. -/
def knob? (u : Utterance) : Option Knob :=
  if u.mentions "brightness" || u.hasAnyWord ["screen", "display"] then some .brightness
  else if u.mentions "unmute" || u.hasAnyWord ["mute", "silence"] then none
  else if u.mentions "volume" || u.hasAnyWord ["louder", "quieter", "sound"] then some .volume
  else none

/-- What an utterance asks of a knob: a level, by number or by name, or a step up or down. -/
inductive Asks (u : Utterance) (k : Knob) : Adjustment → Prop
  | number {n : Nat} (hn : u.number? = some n)
      (h : (u.hasAnyWord upWords = false ∧ u.hasAnyWord downWords = false) ∨ u.hasWord "to" = true) :
    Asks u k (.absolute n)
  | more {n : Nat} (hn : u.number? = some n) (hto : u.hasWord "to" = false) (hup : u.hasAnyWord upWords = true) :
    Asks u k (.relative n)
  | less {n : Nat} (hn : u.number? = some n) (hto : u.hasWord "to" = false) (hup : u.hasAnyWord upWords = false)
      (hdown : u.hasAnyWord downWords = true) : Asks u k (.relative (-n))
  | most (hn : u.number? = none) (h : u.hasAnyWord ["max", "maximum", "full"] = true) : Asks u k (.absolute 100)
  | least (hn : u.number? = none) (hmost : u.hasAnyWord ["max", "maximum", "full"] = false)
      (h : u.hasAnyWord ["min", "minimum"] = true) : Asks u k (.absolute k.least)
  | up (hn : u.number? = none) (hmost : u.hasAnyWord ["max", "maximum", "full"] = false)
      (hleast : u.hasAnyWord ["min", "minimum"] = false) (hup : u.hasAnyWord upWords = true) :
    Asks u k (.relative k.step)
  | down (hn : u.number? = none) (hmost : u.hasAnyWord ["max", "maximum", "full"] = false)
      (hleast : u.hasAnyWord ["min", "minimum"] = false) (hup : u.hasAnyWord upWords = false)
      (hdown : u.hasAnyWord downWords = true) : Asks u k (.relative (-k.step))

/-- The level that an adjustment comes to, in 0 to 100. -/
def Adjustment.target (now : Nat) : Adjustment → Nat
  | .absolute n => min n.toNat 100
  | .relative change => clampLevel (now + change)

end Interpreter

/-- The interpreter answers a chat: there is no provider, or it fails. -/
def Agent.IsLocal (agent : Agent σ π) (s : Agent.State σ π) (said : String) : Prop :=
  ∀ p, agent.provider = some p →
    ∃ failure, (p.within agent.policy.replyLimit s.conversation.turns said s.provider).1 = .error failure

/-! ## Numbers -/

lemma Text.int64?_nonneg {cs : List Char} {n : Int} (h : int64? cs = some n) (hc : cs.head? ≠ some '-') : 0 ≤ n := by
  unfold int64? at h
  obtain ⟨hvalue, -⟩ := Option.filter_eq_some_iff.mp h
  split at hvalue
  case h_1 => simp at hc
  all_goals
    obtain ⟨_, hm, rfl⟩ := Option.map_eq_some_iff.mp hvalue
    obtain ⟨m, -, hm⟩ := Option.bind_eq_some_iff.mp hm
    rw [← Option.some.inj hm]
    exact Int.natCast_nonneg m

namespace Interpreter

variable {said : String} {k : Knob}

/-- Words have no sign in front, so numbers are not negative. -/
lemma number?_nonneg {n : Int} (h : (Utterance.ofString said).number? = some n) : 0 ≤ n := by
  obtain ⟨word, hmem, hword⟩ := List.exists_of_findSome?_eq_some h
  refine Text.int64?_nonneg hword fun hminus => ?_
  obtain ⟨rest, hrest⟩ : Text.dropEndWhile (· == '%') word.toList <+: word.toList := List.rdropWhile_prefix _ _
  have hhead : word.toList.head? = some '-' := by rw [← hrest, List.head?_append, hminus, Option.some_or]
  have hedge := Utterance.isWordEdge_of_head? hmem hhead
  exact absurd hedge (by decide)

lemma direction?_cases (u : Utterance) :
    (u.hasAnyWord upWords = true ∧ direction? u = some 1) ∨
      (u.hasAnyWord upWords = false ∧ u.hasAnyWord downWords = true ∧ direction? u = some (-1)) ∨
      (u.hasAnyWord upWords = false ∧ u.hasAnyWord downWords = false ∧ direction? u = none) := by
  unfold direction?
  cases u.hasAnyWord upWords <;> cases u.hasAnyWord downWords <;> simp

lemma adjustment?_of_asks {u : Utterance} {a : Adjustment} (h : Asks u k a) : adjustment? u k.dial = some a := by
  unfold adjustment? direction?
  cases h with
  | number hn h =>
    obtain ⟨hup, hdown⟩ | hto := h
    · simp [hn, hup, hdown]
    · rw [hn]
      cases u.hasAnyWord upWords <;> cases u.hasAnyWord downWords <;> simp [hto]
  | more hn hto hup => simp [hn, hto, hup]
  | less hn hto hup hdown => simp [hn, hto, hup, hdown]
  | most hn h => simp [hn, h]
  | least hn hmost h => simp [hn, hmost, h]
  | up hn hmost hleast hup => simp [hn, hmost, hleast, hup]
  | down hn hmost hleast hup hdown => simp [hn, hmost, hleast, hup, hdown]

lemma asks_of_adjustment? {a : Adjustment} (h : adjustment? (.ofString said) k.dial = some a) :
    Asks (.ofString said) k a := by
  have hnonneg : ∀ n, (Utterance.ofString said).number? = some n → 0 ≤ n := fun n hn => number?_nonneg hn
  generalize Utterance.ofString said = u at h hnonneg ⊢
  have hdirection := direction?_cases u
  unfold adjustment? at h
  cases hn : u.number? with
  | some n =>
    obtain ⟨m, rfl⟩ : ∃ m : Nat, n = m := Int.eq_ofNat_of_zero_le (hnonneg n hn)
    cases hto : u.hasWord "to" with
    | true =>
      obtain ⟨-, hd⟩ | ⟨-, -, hd⟩ | ⟨-, -, hd⟩ := hdirection
      all_goals
        simp only [hn, hd, hto, if_true, Option.some.injEq] at h
        subst h
        exact .number hn (Or.inr hto)
    | false =>
      obtain ⟨hup, hd⟩ | ⟨hup, hdown, hd⟩ | ⟨hup, hdown, hd⟩ := hdirection
      all_goals
        simp [hn, hd, hto] at h
        subst h
      · exact .more hn hto hup
      · exact .less hn hto hup hdown
      · exact .number hn (Or.inl ⟨hup, hdown⟩)
  | none =>
    cases hmost : u.hasAnyWord ["max", "maximum", "full"] with
    | true =>
      simp [hn, hmost] at h
      subst h
      exact .most hn hmost
    | false =>
      cases hleast : u.hasAnyWord ["min", "minimum"] with
      | true =>
        simp [hn, hmost, hleast] at h
        subst h
        exact .least hn hmost hleast
      | false =>
        obtain ⟨hup, hd⟩ | ⟨hup, hdown, hd⟩ | ⟨hup, hdown, hd⟩ := hdirection
        all_goals
          simp [hn, hd, hmost, hleast] at h
        · subst h
          exact .up hn hmost hleast hup
        · subst h
          exact .down hn hmost hleast hup hdown

lemma asks_iff {a : Adjustment} : Asks (.ofString said) k a ↔ adjustment? (.ofString said) k.dial = some a :=
  ⟨adjustment?_of_asks, asks_of_adjustment?⟩

lemma interpret_of_knob? {backend : Backend σ} (hk : knob? (.ofString said) = some k) (confirm : Bool) (clock : Clock)
    (s : σ) : interpret backend confirm clock said s = level (.ofString said) k.dial (k.read backend) s := by
  unfold knob? at hk
  unfold interpret
  dsimp only
  split_ifs at hk with hbrightness hmute hvolume
  · obtain rfl := Option.some.inj hk
    rw [if_pos hbrightness]
    rfl
  · obtain rfl := Option.some.inj hk
    rw [Bool.or_eq_true, not_or] at hmute
    rw [if_neg hbrightness, if_neg hmute.1, if_neg hmute.2, if_pos hvolume]
    rfl

end Interpreter

/-! ## What is done -/

lemma clampLevel_saturate (n : Int) : clampLevel (Action.saturate n) = clampLevel n := by
  unfold Action.saturate clampLevel
  omega

lemma Knob.ofIntent_eq (k : Knob) {intent : Intent} (hname : intent.name = k.name) :
    Action.ofIntent intent = (Action.levelOf intent).map k.action := by
  cases k with
  | brightness =>
    have hname : intent.name = "brightness" := hname
    simp only [Action.ofIntent, hname]
    rfl
  | volume =>
    have hname : intent.name = "volume" := hname
    simp only [Action.ofIntent, hname]
    rfl

/-- An intent for a level in range is the action that sets it. -/
lemma Knob.ofIntent_level (k : Knob) {level : Nat} (hl : level ≤ 100) :
    Action.ofIntent (.single k.name "level" (.ofNat level)) = .ok (k.action level) := by
  have hclamp : clampLevel (Action.saturate level) = level := by
    rw [clampLevel_saturate, clampLevel_natCast, Nat.min_eq_left hl]
  have hlevel : Action.levelOf (.single k.name "level" (.ofNat level)) = .ok level := by
    simp [Action.levelOf, Intent.param?, Intent.single, Json.member?, Action.level?, Json.ofNat, hclamp]
  rw [k.ofIntent_eq rfl, hlevel]
  rfl

section

variable {backend : Backend σ} {s next : σ} (k : Knob) {level : Nat}

/-- A level that the devices take is set, and the outcome says so. -/
lemma Knob.perform_taken (h : k.write level backend s = (.ok (), next)) (delay : Nat) (spare : Bool) :
    (k.action level).perform backend delay spare s =
      ⟨.ok (k.title ++ " set to " ++ toString level ++ "%"), next, none⟩ := by
  cases k <;>
    simp only [Knob.write] at h <;>
    simp [Knob.action, Action.perform, Action.order, Action.report, h, Knob.title, Action.percent, String.append_assoc]

lemma Knob.perform_refused {e : DeviceError} (h : k.write level backend s = (.error e, next)) (delay : Nat)
    (spare : Bool) :
    (k.action level).perform backend delay spare s = ⟨.failed ("Failed to set " ++ k.name), next, none⟩ := by
  cases k <;>
    simp only [Knob.write] at h <;>
    simp only [Knob.action, Action.perform, Action.order, Action.report, h] <;>
    rfl

/-- An intent for a level in range sets it and says so. -/
lemma Knob.execute_level (hl : level ≤ 100) (h : k.write level backend s = (.ok (), next)) (delay : Nat)
    (spare : Bool) : (Intent.single k.name "level" (.ofNat level)).execute backend delay spare s =
      ⟨.ok (k.title ++ " set to " ++ toString level ++ "%"), next, none⟩ := by
  rw [Intent.execute, k.ofIntent_level hl]
  exact k.perform_taken h delay spare

end

namespace VirtualMachine

variable {m : VirtualMachine}

lemma read_ok (hf : m.failing = false) (k : Knob) :
    k.read backend m = (.ok (k.level m.settings), { m with calls := m.calls + 1 }) := by
  cases k <;> simp [Knob.read, backend, perform, apply, hf, Knob.level]

lemma InRange.level_le (h : m.InRange) (k : Knob) : k.level m.settings ≤ 100 := by
  cases k with
  | brightness => exact h.brightness
  | volume => exact h.volume

lemma write_ok (hf : m.failing = false) (k : Knob) {level : Nat} (hl : level ≤ 100) :
    k.write level backend m = (.ok (), { m with settings := k.set level m.settings, calls := m.calls + 1 }) := by
  have hclamp : clampLevel level = level := by rw [clampLevel_natCast, Nat.min_eq_left hl]
  cases k <;> simp [Knob.write, backend, perform, apply, hf, hclamp, Knob.set]

lemma write_failing (hf : m.failing = true) (k : Knob) (level : Nat) :
    k.write level backend m = (.error offline, { m with calls := m.calls + 1 }) := by
  cases k <;> simp [Knob.write, backend, perform, hf]

end VirtualMachine

namespace Interpreter

/-- The level that an adjustment is brought to, within the words of the machine. -/
def Adjustment.reached (now : Nat) : Adjustment → Nat
  | .absolute n => clampLevel n
  | .relative change => clampLevel (Text.wrapInt64 (now + change))

lemma Adjustment.reached_le (now : Nat) (a : Adjustment) : a.reached now ≤ 100 := by
  cases a <;> exact clampLevel_le _

variable {said : String} {k : Knob} {m : VirtualMachine}

/-- A change of a level starts from the level that is read. -/
lemma interpret_relative {backend : Backend σ} {s next : σ} {now : Nat} {change : Int}
    (hk : knob? (.ofString said) = some k) (ha : Asks (.ofString said) k (.relative change))
    (hread : k.read backend s = (.ok now, next)) (confirm : Bool) (clock : Clock) :
    interpret backend confirm clock said s = (setReply k.dial (Adjustment.reached now (.relative change)), next) := by
  rw [interpret_of_knob? hk, level, asks_iff.mp ha]
  dsimp only
  rw [hread]
  rfl

/-- Interpreting looks at the machine at most. -/
lemma interpret_asked (hk : knob? (.ofString said) = some k) (hf : m.failing = false) {a : Adjustment}
    (ha : Asks (.ofString said) k a) (confirm : Bool) (clock : Clock) :
    ∃ calls, interpret VirtualMachine.backend confirm clock said m =
      (setReply k.dial (a.reached (k.level m.settings)), { m with calls := calls }) := by
  cases a with
  | absolute n =>
    rw [interpret_of_knob? hk, level, asks_iff.mp ha]
    exact ⟨m.calls, rfl⟩
  | relative change => exact ⟨m.calls + 1, interpret_relative hk ha (VirtualMachine.read_ok hf k) confirm clock⟩

lemma interpret_unasked (hk : knob? (.ofString said) = some k) (hf : m.failing = false)
    (ha : ∀ a, ¬ Asks (.ofString said) k a) (confirm : Bool) (clock : Clock) :
    ∃ calls, interpret VirtualMachine.backend confirm clock said m =
      (.say ("The " ++ k.name ++ " is at " ++ toString (k.level m.settings) ++ "%"), { m with calls := calls }) := by
  have hnone : adjustment? (.ofString said) k.dial = none := by
    rw [Option.eq_none_iff_forall_ne_some]
    intro a h
    exact ha a (asks_iff.mpr h)
  rw [interpret_of_knob? hk, level, hnone]
  dsimp only
  rw [VirtualMachine.read_ok hf, levelReply, k.name_dial]
  exact ⟨m.calls + 1, rfl⟩

/-- No sum leaves the words of the machine when the number that is said and 100 fit into one. -/
lemma reached_eq_target {now : Nat} (hnow : now ≤ 100) {a : Adjustment} (ha : Asks (.ofString said) k a)
    (hn : ∀ n, (Utterance.ofString said).number? = some n → Text.inInt64 (n + 100) = true) :
    a.reached now = a.target now := by
  have hstep : 0 ≤ k.step ∧ k.step ≤ 20 := by cases k <;> decide
  have hwithin (change : Int) (h : Text.inInt64 (change.natAbs + 100) = true) :
      Adjustment.reached now (.relative change) = Adjustment.target now (.relative change) := by
    have hsum : Text.inInt64 (now + change) = true := by
      simp only [Text.inInt64, Bool.and_eq_true, decide_eq_true_eq] at h ⊢
      omega
    simp only [Adjustment.reached, Adjustment.target, Text.wrapInt64_of_inInt64 hsum]
  have hfixed : Text.inInt64 (k.step.natAbs + 100) = true := by
    simp only [Text.inInt64, Bool.and_eq_true, decide_eq_true_eq]
    omega
  cases a with
  | absolute n =>
    simp only [Adjustment.reached, Adjustment.target, clampLevel]
    omega
  | relative change =>
    apply hwithin
    cases ha with
    | more h | less h => simpa using hn _ h
    | up | down => simpa using hfixed

lemma target_of_relative {now : Nat} (hnow : now ≤ 100) {change : Int}
    (ha : Asks (.ofString said) k (.relative change)) :
    let t := Adjustment.target now (.relative change)
    if (Utterance.ofString said).hasAnyWord upWords then now ≤ t else t ≤ now := by
  have hstep : 0 ≤ k.step := by cases k <;> decide
  have hsign : if (Utterance.ofString said).hasAnyWord upWords then 0 ≤ change else change ≤ 0 := by
    cases ha with
    | more _ _ hup =>
      rw [if_pos hup]
      exact Int.natCast_nonneg _
    | less _ _ hup =>
      rw [hup, if_neg Bool.false_ne_true]
      omega
    | up _ _ _ hup =>
      rw [if_pos hup]
      exact hstep
    | down _ _ _ hup =>
      rw [hup, if_neg Bool.false_ne_true]
      omega
  simp only [Adjustment.target, clampLevel]
  split
  · next hup =>
    rw [if_pos hup] at hsign
    omega
  · next hup =>
    rw [if_neg hup] at hsign
    omega

end Interpreter

namespace Agent

open Interpreter

/-- What the provider is left with when it is asked in vain. -/
def askedInVain (agent : Agent σ π) (s : Agent.State σ π) (said : String) : π :=
  match agent.provider with
  | none => s.provider
  | some p => (p.within agent.policy.replyLimit s.conversation.turns said s.provider).2

lemma handle_local {agent : Agent σ π} {s : Agent.State σ π} {said : String} (h : agent.IsLocal s said) :
    agent.handle (.chat said) s =
      agent.complete (.interpreting said) { s with provider := agent.askedInVain s said } := by
  unfold askedInVain
  cases hp : agent.provider with
  | none =>
    rw [handle, complete_eq_complete_advance]
    simp [advance, start, hp]
  | some p =>
    obtain ⟨failure, hfailure⟩ := h p hp
    exact handle_chat_failed hp s said hfailure

lemma complete_replied_act (agent : Agent σ π) (said text : String) (intent : Intent) (s : Agent.State σ π) :
    agent.complete (.replied said (.act text intent) false) s =
      agent.complete (.acting (some text) intent)
        { s with conversation := s.conversation.appendExchange said text } := by
  rw [complete_eq_complete_advance]
  rfl

lemma complete_replied_say (agent : Agent σ π) (said text : String) (s : Agent.State σ π) :
    agent.complete (.replied said (.say text) false) s =
      (.chat .ok text none, { s with conversation := s.conversation.appendExchange said text }) := by
  rw [complete_eq_complete_advance]
  rfl

/-- A chat that is answered with a level has it set. -/
lemma handle_set {agent : Agent σ π} {s : Agent.State σ π} {said : String} (hl : agent.IsLocal s said) {k : Knob}
    {level : Nat} (hle : level ≤ 100) {devices next : σ}
    (hinterpret : Interpreter.interpret agent.backend agent.policy.confirmDangerous s.clock said s.devices =
      (setReply k.dial level, devices))
    (hwrite : k.write level agent.backend devices = (.ok (), next)) :
    ∃ after, agent.handle (.chat said) s =
        (.chat .ok ("Setting " ++ k.name ++ " to " ++ toString level ++ "%")
          (some (.ok (k.title ++ " set to " ++ toString level ++ "%"))), after) ∧
      after.devices = next ∧ after.provider = agent.askedInVain s said := by
  have hexecute := k.execute_level hle hwrite agent.policy.powerDelay s.spare
  rw [handle_local hl, complete_interpreting, hinterpret, setReply, complete_replied_act, complete_acting]
  simp only [Knob.name_dial]
  rw [hexecute]
  exact ⟨_, rfl, rfl, rfl⟩

section Local

variable {agent : Agent VirtualMachine π} {s : Agent.State VirtualMachine π} {said : String} {k : Knob}

lemma handle_asked (hb : agent.backend = VirtualMachine.backend) (hl : agent.IsLocal s said)
    (hk : knob? (.ofString said) = some k) (hf : s.devices.failing = false) {a : Adjustment}
    (ha : Asks (.ofString said) k a) :
    ∃ next, agent.handle (.chat said) s =
        (.chat .ok ("Setting " ++ k.name ++ " to " ++ toString (a.reached (k.level s.devices.settings)) ++ "%")
          (some (.ok (k.title ++ " set to " ++ toString (a.reached (k.level s.devices.settings)) ++ "%"))), next) ∧
      next.devices.settings = k.set (a.reached (k.level s.devices.settings)) s.devices.settings ∧
      next.devices.failing = false ∧ next.provider = agent.askedInVain s said := by
  obtain ⟨calls, hinterpret⟩ := interpret_asked hk hf ha agent.policy.confirmDangerous s.clock
  have hle := a.reached_le (k.level s.devices.settings)
  have hwrite := VirtualMachine.write_ok (m := { s.devices with calls := calls }) hf k hle
  rw [← hb] at hinterpret hwrite
  obtain ⟨next, hhandle, hdevices, hprovider⟩ := handle_set hl hle hinterpret hwrite
  exact ⟨next, hhandle, by rw [hdevices], by rw [hdevices]; exact hf, hprovider⟩

lemma handle_unasked (hb : agent.backend = VirtualMachine.backend) (hl : agent.IsLocal s said)
    (hk : knob? (.ofString said) = some k) (hf : s.devices.failing = false)
    (ha : ∀ a, ¬ Asks (.ofString said) k a) :
    ∃ next, agent.handle (.chat said) s =
        (.chat .ok ("The " ++ k.name ++ " is at " ++ toString (k.level s.devices.settings) ++ "%") none, next) ∧
      next.devices.settings = s.devices.settings := by
  obtain ⟨calls, hinterpret⟩ := interpret_unasked hk hf ha agent.policy.confirmDangerous s.clock
  rw [handle_local hl, complete_interpreting, hb, hinterpret, complete_replied_say]
  exact ⟨_, rfl, rfl⟩

/-- A chat about a dial that is answered without a provider, on a machine that works, sets what is asked for and nothing
else, and says so; when nothing is asked for, it tells the level. -/
theorem level_commands (hb : agent.backend = VirtualMachine.backend) (hl : agent.IsLocal s said)
    (hk : knob? (.ofString said) = some k) (hf : s.devices.failing = false) (hr : s.devices.InRange)
    (hn : ∀ n, (Utterance.ofString said).number? = some n → Text.inInt64 (n + 100) = true) :
    let u := Utterance.ofString said
    let now := k.level s.devices.settings
    (∀ a, Asks u k a → let t := a.target now
      ∃ next, agent.handle (.chat said) s =
          (.chat .ok ("Setting " ++ k.name ++ " to " ++ toString t ++ "%")
            (some (.ok (k.title ++ " set to " ++ toString t ++ "%"))), next) ∧
        next.devices.settings = k.set t s.devices.settings ∧ (k.read agent.backend next.devices).1 = .ok t ∧
        ∀ change, a = .relative change → if u.hasAnyWord upWords then now ≤ t else t ≤ now) ∧
    ((∀ a, ¬ Asks u k a) →
      ∃ next, agent.handle (.chat said) s =
          (.chat .ok ("The " ++ k.name ++ " is at " ++ toString now ++ "%") none, next) ∧
        next.devices.settings = s.devices.settings) := by
  intro u now
  have hnow : now ≤ 100 := hr.level_le k
  refine ⟨fun a ha => ?_, fun ha => handle_unasked hb hl hk hf ha⟩
  intro t
  have ht : a.reached (k.level s.devices.settings) = t := reached_eq_target hnow ha hn
  obtain ⟨next, hhandle, hsettings, hworks, -⟩ := handle_asked hb hl hk hf ha
  rw [ht] at hhandle hsettings
  refine ⟨next, hhandle, hsettings, ?_, ?_⟩
  · rw [hb, VirtualMachine.read_ok hworks, hsettings, Knob.level_set]
  · rintro change rfl
    exact target_of_relative hnow ha

theorem level_commands_quieter :
    (∃ next, patientAgent.alone.handle (.chat "Turn the volume down by 60%, please!") (greeting 0) =
        (.chat .ok "Setting volume to 0%" (some (.ok "Volume set to 0%")), next) ∧
      next.devices.settings.volume = 0 ∧ next.devices.settings.brightness = 50) ∧
    ∃ next, patientAgent.alone.handle (.chat "How bright is my screen?") (greeting 0) =
      (.chat .ok "The brightness is at 50%" none, next) := by
  have hlocal (said : String) : patientAgent.alone.IsLocal (greeting 0) said := nofun
  have hrange : (greeting 0).devices.InRange := VirtualMachine.inRange_withLevels 50 50
  have hsixty : (Utterance.ofString "Turn the volume down by 60%, please!").number? = some 60 := by decide +kernel
  have hnumber : (Utterance.ofString "How bright is my screen?").number? = none := by decide +kernel
  have hnone : adjustment? (.ofString "How bright is my screen?") Knob.brightness.dial = none := by decide +kernel
  obtain ⟨hasked, -⟩ := level_commands (k := .volume) rfl (hlocal "Turn the volume down by 60%, please!")
    (by decide +kernel) rfl hrange fun n hn => by
      obtain rfl := Option.some.inj (hsixty.symm.trans hn)
      decide
  obtain ⟨-, hunasked⟩ := level_commands (k := .brightness) rfl (hlocal "How bright is my screen?")
    (by decide +kernel) rfl hrange fun n hn => absurd (hnumber.symm.trans hn) nofun
  have hless : Asks (.ofString "Turn the volume down by 60%, please!") .volume (.relative (-60)) :=
    .less (n := 60) hsixty (by decide +kernel) (by decide +kernel) (by decide +kernel)
  constructor
  · obtain ⟨next, hhandle, hsettings, -⟩ := hasked _ hless
    refine ⟨next, hhandle, ?_, ?_⟩
    · rw [hsettings]
      decide +kernel
    · rw [hsettings]
      rfl
  · obtain ⟨next, hhandle, -⟩ := hunasked fun a ha => absurd (hnone.symm.trans (asks_iff.mp ha)) nofun
    exact ⟨next, hhandle⟩

end Local

end Agent

end DeviceAgent
