import DeviceAgent.Device.Basic
import DeviceAgent.Intent.Basic
import DeviceAgent.Text.Decimal

/-!
# Actions

The closed vocabulary of things an agent can do, and how an intent is checked against it before any device is
touched.
-/

namespace DeviceAgent

inductive PowerAction where
  | poweroff
  | reboot
deriving DecidableEq, Repr

def PowerAction.event : PowerAction → PowerEvent
  | .poweroff => .poweroff
  | .reboot => .reboot

/-- The name of the action that schedules it. -/
def PowerAction.label : PowerAction → String
  | .poweroff => "shutdown"
  | .reboot => "reboot"

inductive Topic where
  | system
  | battery
  | wifi
  | bluetooth
  | power
  | apps
deriving DecidableEq, Repr

def Topic.name : Topic → String
  | .system => "system"
  | .battery => "battery"
  | .wifi => "wifi"
  | .bluetooth => "bluetooth"
  | .power => "power"
  | .apps => "apps"

def Topic.all : List Topic := [.system, .battery, .wifi, .bluetooth, .power, .apps]

/-- A checked action. -/
inductive Action where
  | brightness (level : Nat)
  | volume (level : Nat)
  | mute (on : Bool)
  | wifi (on : Bool)
  | bluetooth (on : Bool)
  | suspend
  | hibernate
  | schedule (action : PowerAction)
  | launch (app : String)
  | info (topic : Topic)
deriving DecidableEq, Repr

inductive Refusal where
  | unknownAction
  | missing (parameter : String)
  | invalid (parameter : String) (expected : String)
  | notApplication (app : String)
  | unknownTopic (name : String)
deriving DecidableEq, Repr

def Refusal.message : Refusal → String
  | .unknownAction => "Unknown action"
  | .missing parameter => "Missing parameter: " ++ parameter
  | .invalid parameter expected => "Invalid parameter: " ++ parameter ++ " must be a " ++ expected
  | .notApplication app => app ++ " is not an application; use the shutdown or reboot action"
  | .unknownTopic name => "Unknown info type: " ++ name

namespace Action

def names : List String :=
  ["brightness", "volume", "mute", "wifi", "bluetooth", "suspend", "hibernate", "shutdown", "reboot",
    "launch", "info"]

/-- Cuts a whole number to a signed 64-bit word. -/
def saturate (n : Int) : Int :=
  max (-9223372036854775808) (min 9223372036854775807 n)

/-- The level that a parameter gives: a number, rounded, or a text of a whole number with percent signs behind
it. -/
def level? : Json → Option Int
  | .number (.int n) => some (saturate n)
  | .number (.float x) => some (saturate x.roundAway)
  | .string s => Text.int64? (Text.trim (Text.dropEndWhile (· == '%') (Text.trim s.toList)))
  | _ => none

def levelOf (intent : Intent) : Except Refusal Nat :=
  match intent.param? ["level", "value"] with
  | none => .error (.missing "level")
  | some v => match level? v with
    | some n => .ok (clampLevel n)
    | none => .error (.invalid "level" "number")

def switchOf (intent : Intent) : Except Refusal Bool :=
  match intent.param? ["enabled", "enable"] with
  | none => .error (.missing "enabled")
  | some v => match v.bool? with
    | some on => .ok on
    | none => .error (.invalid "enabled" "boolean")

/-- Whether an intent mutes; it does when it does not say. -/
def muteOf (intent : Intent) : Except Refusal Bool :=
  match intent.param? ["muted", "mute"] with
  | none => .ok true
  | some v => match v.bool? with
    | some on => .ok on
    | none => .error (.invalid "muted" "boolean")

/-- The power action of a shutdown, which may ask for a restart. -/
def shutdownOf (intent : Intent) : Except Refusal PowerAction :=
  match intent.param? ["reboot"] with
  | none => .ok .poweroff
  | some v => match v.bool? with
    | some true => .ok .reboot
    | some false => .ok .poweroff
    | none => .error (.invalid "reboot" "boolean")

/-- The application of an intent, which must not be a program that changes the power state. -/
def appOf (intent : Intent) : Except Refusal String :=
  match (intent.param? ["app", "name"]).bind Json.string? with
  | some text =>
    let app := Text.trimmed text
    if app.isEmpty then .error (.missing "app")
    else if isPowerCommand app then .error (.notApplication app)
    else .ok app
  | none => .error (.missing "app")

/-- The topic of an intent; the system when it does not say. -/
def topicOf (intent : Intent) : Except Refusal Topic :=
  match intent.param? ["type"] with
  | none | some .null => .ok .system
  | some (.string s) => match Topic.all.find? (·.name == s) with
    | some topic => .ok topic
    | none => .error (.unknownTopic s)
  | some _ => .error (.invalid "type" "string")

def ofIntent (intent : Intent) : Except Refusal Action :=
  match intent.name with
  | "brightness" => (levelOf intent).map .brightness
  | "volume" => (levelOf intent).map .volume
  | "mute" => (muteOf intent).map .mute
  | "wifi" => (switchOf intent).map .wifi
  | "bluetooth" => (switchOf intent).map .bluetooth
  | "suspend" => .ok .suspend
  | "hibernate" => .ok .hibernate
  | "shutdown" => (shutdownOf intent).map .schedule
  | "reboot" => .ok (.schedule .reboot)
  | "launch" => (appOf intent).map .launch
  | "info" => (topicOf intent).map .info
  | _ => .error .unknownAction

end Action

end DeviceAgent
