import DeviceAgent.Device.Basic
import DeviceAgent.Intent.Basic
import DeviceAgent.Interpreter.Clock
import DeviceAgent.Interpreter.Utterance

/-!
# The keyword interpreter

Answers a chat without a language model: the first topic whose keywords the user mentions decides. The answer
is an acknowledgement with at most one intent out of the action vocabulary; what is not understood gets the
list of abilities.
-/

namespace DeviceAgent

structure Reply where
  text : String
  intent : Option Intent

namespace Reply

def say (text : String) : Reply := ⟨text, none⟩

def act (text : String) (intent : Intent) : Reply := ⟨text, some intent⟩

end Reply

namespace Interpreter

def abilities : String :=
  "I can help with: brightness, volume, mute, battery, time, date, wifi, bluetooth, suspend, shutdown, reboot, " ++
    "launching apps and system info"

def upWords : List String := ["up", "increase", "higher", "raise", "brighter", "louder"]

def downWords : List String := ["down", "decrease", "lower", "reduce", "dim", "dimmer", "quieter"]

def launchWords : List String := ["open", "launch", "start", "run"]

/-- Words that are not part of the name of an application. -/
def fillerWords : List String := ["the", "a", "an", "app", "application", "please", "program"]

structure Dial where
  name : String
  /-- The change that a direction word alone makes. -/
  step : Int
  /-- The level for "min". -/
  least : Int

def brightnessDial : Dial := ⟨"brightness", 20, 10⟩

def volumeDial : Dial := ⟨"volume", 10, 0⟩

inductive Adjustment where
  | absolute (level : Int)
  | relative (change : Int)
deriving DecidableEq, Repr

/-- The direction a user asks for; more goes before less. -/
def direction? (u : Utterance) : Option Int :=
  if u.hasAnyWord upWords then some 1
  else if u.hasAnyWord downWords then some (-1)
  else none

/-- What a user asks of a dial. A direction turns a number into the size of a step unless "to" is said. -/
def adjustment? (u : Utterance) (dial : Dial) : Option Adjustment :=
  match u.number?, direction? u with
  | some n, none => some (.absolute n)
  | some n, some sign =>
    if u.hasWord "to" then some (.absolute n) else some (.relative (sign * n.natAbs))
  | none, direction =>
    if u.hasAnyWord ["max", "maximum", "full"] then some (.absolute 100)
    else if u.hasAnyWord ["min", "minimum"] then some (.absolute dial.least)
    else direction.map fun sign => .relative (sign * dial.step)

def setReply (dial : Dial) (target : Nat) : Reply :=
  .act ("Setting " ++ dial.name ++ " to " ++ toString target ++ "%")
    (.single dial.name "level" (.ofNat target))

def levelReply (dial : Dial) : Option Adjustment → Except DeviceError Nat → Reply
  | some (.absolute n), _ => setReply dial (clampLevel n)
  | some (.relative d), .ok now => setReply dial (clampLevel (Text.wrapInt64 (now + d)))
  | some (.relative _), .error _ => .say ("I couldn't read the current " ++ dial.name)
  | none, .ok now => .say ("The " ++ dial.name ++ " is at " ++ toString now ++ "%")
  | none, .error _ => .say ("The " ++ dial.name ++ " level is unavailable")

/-- Answers about a dial, given the command that reads it; an absolute level needs no reading. -/
def level {σ : Type} (u : Utterance) (dial : Dial) (read : σ → Except DeviceError Nat × σ) (s : σ) : Reply × σ :=
  match adjustment? u dial with
  | some (.absolute n) => (setReply dial (clampLevel n), s)
  | adjustment =>
    let (now, next) := read s
    (levelReply dial adjustment now, next)

def batteryReply : Except DeviceError Battery → Reply
  | .ok b =>
    if b.present then .say ("Battery: " ++ toString b.level ++ "%, Status: " ++ b.status)
    else .say "No battery detected"
  | .error _ => .say "Battery information is unavailable"

/-- The reply about a radio: it is switched when the user asks for one state only, and looked up otherwise. -/
def radio (u : Utterance) (name label : String) : Reply :=
  let on := u.hasWord "on" || u.mentions "enable" || u.hasWord "connect"
  let off := u.hasWord "off" || u.mentions "disable" || u.hasWord "disconnect"
  match on, off with
  | true, false => .act ("Turning " ++ label ++ " on") (.single name "enabled" (.bool true))
  | false, true => .act ("Turning " ++ label ++ " off") (.single name "enabled" (.bool false))
  | _, _ => .act ("Checking " ++ label ++ " status") (.single "info" "type" (.string name))

/-- The words of a power action: what runs, and what the user is asked about. -/
structure PowerWords where
  name : String
  doing : String
  verb : String

def shutdownWords : PowerWords := ⟨"shutdown", "Shutting down", "shut down"⟩

def rebootWords : PowerWords := ⟨"reboot", "Rebooting", "reboot"⟩

/-- The reply to a power action, which may have to be confirmed. -/
def dangerous (confirm : Bool) (u : Utterance) (w : PowerWords) : Reply :=
  if confirm && ! u.mentions "confirm" then
    .say ("Are you sure you want to " ++ w.verb ++ "? Say \"confirm " ++ w.name ++ "\" to proceed.")
  else .act (w.doing ++ " the system") (.named w.name)

/-- The application that a user asks for: the words behind the first launching word, fillers aside. -/
def app? (u : Utterance) : Option String :=
  match u.words.dropWhile (! launchWords.contains ·) with
  | [] => none
  | _ :: rest =>
    match rest.filter (! fillerWords.contains ·) with
    | [] => none
    | name => some (String.intercalate " " name)

def plain (clock : Clock) (u : Utterance) : Reply :=
  if u.mentions "hibernate" then .act "Hibernating" (.named "hibernate")
  else if u.mentions "suspend" || u.hasWord "sleep" then .act "Suspending the system" (.named "suspend")
  else match app? u with
    | some app => .act ("Launching " ++ app) (.single "launch" "app" (.string app))
    | none =>
      if u.mentions "system" && u.hasAnyWord ["info", "information", "status"] then
        .act "Gathering system information" (.named "info")
      else if u.hasAnyWord ["time", "clock"] then .say ("The time is " ++ clock.timeText)
      else if u.hasAnyWord ["date", "today", "day"] then .say ("Today is " ++ clock.dateText)
      else .say abilities

def interpret {σ : Type} (backend : Backend σ) (confirm : Bool) (clock : Clock) (said : String) (s : σ) : Reply × σ :=
  let u := Utterance.ofString said
  if u.mentions "brightness" || u.hasAnyWord ["screen", "display"] then
    level u brightnessDial (backend.perform .brightness) s
  else if u.mentions "unmute" then (.act "Unmuting audio" (.single "mute" "muted" (.bool false)), s)
  else if u.hasAnyWord ["mute", "silence"] then (.act "Muting audio" (.single "mute" "muted" (.bool true)), s)
  else if u.mentions "volume" || u.hasAnyWord ["louder", "quieter", "sound"] then
    level u volumeDial (backend.perform .volume) s
  else if u.mentions "battery" then
    let (report, next) := backend.perform .battery s
    (batteryReply report, next)
  else if u.mentionsAny ["wifi", "wi-fi", "wireless"] then (radio u "wifi" "WiFi", s)
  else if u.mentions "bluetooth" then (radio u "bluetooth" "Bluetooth", s)
  else if u.mentionsAny ["shutdown", "shut down", "power off", "poweroff"] then
    (dangerous confirm u shutdownWords, s)
  else if u.mentionsAny ["reboot", "restart"] then (dangerous confirm u rebootWords, s)
  else (plain clock u, s)

end Interpreter

end DeviceAgent
