import DeviceAgent.Interpreter.Basic
import Mathlib.Tactic.Lemma

/-!
# The replies of the interpreter

What the interpreter can look at and what it can reply. Everything that is said of its replies later goes through the
intents that are listed here.
-/

namespace DeviceAgent.Interpreter

variable {σ : Type}

/-! ## Answers -/

/-- The answers there are: a dial, the battery, or what was said alone. -/
inductive Answers (backend : Backend σ) (confirm : Bool) (clock : Clock) (u : Utterance) (s : σ) : Reply × σ → Prop
  | brightness : Answers backend confirm clock u s (level u brightnessDial (backend.perform .brightness) s)
  | volume : Answers backend confirm clock u s (level u volumeDial (backend.perform .volume) s)
  | battery :
    Answers backend confirm clock u s (batteryReply (backend.perform .battery s).1, (backend.perform .battery s).2)
  | unmute :
    Answers backend confirm clock u s (.act "Unmuting audio" (.single "mute" "muted" (.bool false)), s)
  | mute : Answers backend confirm clock u s (.act "Muting audio" (.single "mute" "muted" (.bool true)), s)
  | wifi : Answers backend confirm clock u s (radio u "wifi" "WiFi", s)
  | bluetooth : Answers backend confirm clock u s (radio u "bluetooth" "Bluetooth", s)
  | shutdown : Answers backend confirm clock u s (dangerous confirm u shutdownWords, s)
  | reboot : Answers backend confirm clock u s (dangerous confirm u rebootWords, s)
  | plain : Answers backend confirm clock u s (plain clock u, s)

theorem answers_interpret (backend : Backend σ) (confirm : Bool) (clock : Clock) (said : String) (s : σ) :
    Answers backend confirm clock (Utterance.ofString said) s (interpret backend confirm clock said s) := by
  -- One branch at a time; splitting the whole chain of conditions at once takes far longer.
  have hbranch {p : Prop} [Decidable p] {x y : Reply × σ}
      (hx : Answers backend confirm clock (Utterance.ofString said) s x)
      (hy : Answers backend confirm clock (Utterance.ofString said) s y) :
      Answers backend confirm clock (Utterance.ofString said) s (if p then x else y) := by
    split
    · exact hx
    · exact hy
  unfold interpret
  apply hbranch .brightness
  apply hbranch .unmute
  apply hbranch .mute
  apply hbranch .volume
  apply hbranch .battery
  apply hbranch .wifi
  apply hbranch .bluetooth
  apply hbranch .shutdown
  apply hbranch .reboot
  exact .plain

/-! ## Intents -/

/-- The intents there are in replies. A dangerous one that has to be confirmed takes the word by which a user does. -/
inductive Offers (confirm : Bool) (u : Utterance) : Intent → Prop
  | brightness (target : Nat) : Offers confirm u (.single "brightness" "level" (.ofNat target))
  | volume (target : Nat) : Offers confirm u (.single "volume" "level" (.ofNat target))
  | mute (muted : Bool) : Offers confirm u (.single "mute" "muted" (.bool muted))
  | wifi (on : Bool) : Offers confirm u (.single "wifi" "enabled" (.bool on))
  | bluetooth (on : Bool) : Offers confirm u (.single "bluetooth" "enabled" (.bool on))
  | wifiInfo : Offers confirm u (.single "info" "type" (.string "wifi"))
  | bluetoothInfo : Offers confirm u (.single "info" "type" (.string "bluetooth"))
  | shutdown (hc : confirm = true → u.mentions "confirm" = true) : Offers confirm u (.named "shutdown")
  | reboot (hc : confirm = true → u.mentions "confirm" = true) : Offers confirm u (.named "reboot")
  | hibernate : Offers confirm u (.named "hibernate")
  | suspend : Offers confirm u (.named "suspend")
  | launch {app : String} (ha : app? u = some app) : Offers confirm u (.single "launch" "app" (.string app))
  | systemInfo : Offers confirm u (.named "info")

/-- A reply says something, and offers an intent that there is, or none. -/
structure Replies (confirm : Bool) (u : Utterance) (r : Reply) : Prop where
  text : r.text ≠ ""
  intent : ∀ intent, r.intent = some intent → Offers confirm u intent

variable {confirm : Bool} {u : Utterance}

/-- Where dangerous intents are to be confirmed, one is offered only when the user says so. -/
lemma Offers.mentions_confirm {intent : Intent} (h : Offers true u intent) (hd : intent.isDangerous = true) :
    u.mentions "confirm" = true := by
  cases h with
  | shutdown hc => exact hc rfl
  | reboot hc => exact hc rfl
  | _ => simp [Intent.isDangerous, Intent.single, Intent.named] at hd

lemma replies_say {text : String} (h : text ≠ "") : Replies confirm u (.say text) :=
  ⟨h, fun intent hi => by simp [Reply.say] at hi⟩

lemma replies_act {text : String} {intent : Intent} (h : text ≠ "") (hi : Offers confirm u intent) :
    Replies confirm u (.act text intent) := by
  refine ⟨h, fun other ho => ?_⟩
  obtain rfl := Option.some.inj ho
  exact hi

lemma replies_level {dial : Dial} (hd : ∀ target : Nat, Offers confirm u (.single dial.name "level" (.ofNat target)))
    (read : σ → Except DeviceError Nat × σ) (s : σ) : Replies confirm u (level u dial read s).1 := by
  have hset : ∀ target, Replies confirm u (setReply dial target) := fun target => replies_act (by simp) (hd target)
  unfold level
  split
  · exact hset _
  · dsimp only
    unfold levelReply
    split
    · exact hset _
    · exact hset _
    all_goals exact replies_say (by simp)

lemma replies_batteryReply (b : Except DeviceError Battery) : Replies confirm u (batteryReply b) := by
  unfold batteryReply
  repeat' split
  all_goals exact replies_say (by simp)

lemma replies_radio {name : String} (hswitch : ∀ on, Offers confirm u (.single name "enabled" (.bool on)))
    (hinfo : Offers confirm u (.single "info" "type" (.string name))) (label : String) :
    Replies confirm u (radio u name label) := by
  unfold radio
  dsimp only
  split
  · exact replies_act (by simp) (hswitch true)
  · exact replies_act (by simp) (hswitch false)
  · exact replies_act (by simp) hinfo

lemma replies_dangerous {w : PowerWords}
    (hw : (confirm = true → u.mentions "confirm" = true) → Offers confirm u (.named w.name)) :
    Replies confirm u (dangerous confirm u w) := by
  unfold dangerous
  split
  · exact replies_say (by simp)
  · next hconfirm => exact replies_act (by simp) (hw fun hc => by simpa [hc] using hconfirm)

lemma replies_plain (clock : Clock) : Replies confirm u (plain clock u) := by
  unfold plain
  split
  · exact replies_act (by simp) .hibernate
  split
  · exact replies_act (by simp) .suspend
  split
  · next app ha => exact replies_act (by simp) (.launch ha)
  split
  · exact replies_act (by simp) .systemInfo
  split
  · exact replies_say (by simp)
  split
  · exact replies_say (by simp)
  · exact replies_say (by decide)

/-- Whatever is said, the interpreter has a reply. -/
theorem replies_interpret (backend : Backend σ) (confirm : Bool) (clock : Clock) (said : String) (s : σ) :
    Replies confirm (Utterance.ofString said) (interpret backend confirm clock said s).1 := by
  have ha := answers_interpret backend confirm clock said s
  generalize interpret backend confirm clock said s = answer at ha ⊢
  cases ha with
  | brightness => exact replies_level .brightness _ _
  | volume => exact replies_level .volume _ _
  | battery => exact replies_batteryReply _
  | unmute => exact replies_act (by simp) (.mute false)
  | mute => exact replies_act (by simp) (.mute true)
  | wifi => exact replies_radio .wifi .wifiInfo _
  | bluetooth => exact replies_radio .bluetooth .bluetoothInfo _
  | shutdown => exact replies_dangerous .shutdown
  | reboot => exact replies_dangerous .reboot
  | plain => exact replies_plain _

end DeviceAgent.Interpreter
