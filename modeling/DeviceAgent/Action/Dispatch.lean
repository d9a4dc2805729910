import DeviceAgent.Action.Basic
import DeviceAgent.Message.Snapshot

/-!
# Carrying out actions

Each action is one command to the devices, except that power information takes two readings and that shutdown
and reboot are only scheduled, on a thread that the system may refuse. An action never fails; its outcome says
whether it took place.
-/

namespace DeviceAgent

structure Execution (σ : Type) where
  outcome : Outcome
  device : σ
  scheduled : Option PowerAction

namespace Action

variable {σ : Type}

/-- One command, its reply put into words and data. -/
def report (backend : Backend σ) (s : σ) (c : Command) (failure : String) (success : c.Reply → Outcome) :
    Execution σ :=
  match backend.perform c s with
  | (.ok reply, next) => ⟨success reply, next, none⟩
  | (.error _, next) => ⟨.failed failure, next, none⟩

def order (backend : Backend σ) (s : σ) (c : Command) (failure success : String) : Execution σ :=
  report backend s c failure fun _ => .ok success

def percent (level : Nat) : String := toString level ++ "%"

def systemData (i : SystemInfo) : Json :=
  .object (Json.ordered ((Snapshot.ofInfo i).members ++
    [("cpu_load", .number (.float i.cpuLoad)), ("disk_total_mb", .ofNat (i.diskTotalKb / 1024)),
      ("disk_free_mb", .ofNat (i.diskFreeKb / 1024))]))

def batteryData (b : Battery) : Json :=
  match b.toJson with
  | .object members => .object (Json.ordered members)
  | v => v

def batteryOutcome (b : Battery) : Outcome :=
  .okWith (if b.present then "Battery at " ++ percent b.level ++ " (" ++ b.status ++ ")" else "No battery present")
    (batteryData b)

def radioOutcome (label : String) (on : Bool) : Outcome :=
  .okWith (label ++ " is " ++ if on then "on" else "off") (.object [("enabled", .bool on)])

def powerOutcome (onAc : Bool) (b : Battery) : Outcome :=
  .okWith (if onAc then "On AC power" else "On battery power")
    (.object [("battery", batteryData b), ("on_ac", .bool onAc)])

def unreadable (topic : Topic) : String := "Failed to read " ++ topic.name ++ " info"

def inform (backend : Backend σ) (s : σ) : Topic → Execution σ
  | .system => report backend s .systemInfo (unreadable .system) fun i =>
      .okWith "System info retrieved" (systemData i)
  | .battery => report backend s .battery (unreadable .battery) batteryOutcome
  | .wifi => report backend s .wifi (unreadable .wifi) (radioOutcome "WiFi")
  | .bluetooth => report backend s .bluetooth (unreadable .bluetooth) (radioOutcome "Bluetooth")
  | .power =>
    match backend.perform .onAcPower s with
    | (.ok onAc, next) => report backend next .battery (unreadable .power) (powerOutcome onAc)
    | (.error _, next) => ⟨.failed (unreadable .power), next, none⟩
  | .apps => report backend s .listApps (unreadable .apps) fun apps =>
      .okWith (toString apps.length ++ " applications available")
        (.object [("apps", .array (apps.map .string))])

def farewell : PowerAction → String
  | .poweroff => "Shutting down..."
  | .reboot => "Rebooting..."

/-- Puts a power action off, if the system has a thread to spare that waits for its delay. -/
def putOff (delay : Nat) (spare : Bool) (s : σ) (action : PowerAction) : Execution σ :=
  if spare then ⟨.okWith (farewell action) (.object [("delay_secs", .ofNat delay)]), s, some action⟩
  else ⟨.failed ("Failed to schedule " ++ action.label), s, none⟩

/-- Carries out an action; `delay` is the number of seconds before a power action takes place, and `spare` says
whether the system has a thread to spare for it. -/
def perform (backend : Backend σ) (delay : Nat) (spare : Bool) (s : σ) : Action → Execution σ
  | .brightness level => order backend s (.setBrightness level) "Failed to set brightness"
      ("Brightness set to " ++ percent level)
  | .volume level => order backend s (.setVolume level) "Failed to set volume" ("Volume set to " ++ percent level)
  | .mute on => order backend s (.setMuted on) "Failed to change mute state" (if on then "Muted" else "Unmuted")
  | .wifi on => order backend s (.setWifi on) "Failed to change WiFi state"
      ("WiFi " ++ if on then "enabled" else "disabled")
  | .bluetooth on => order backend s (.setBluetooth on) "Failed to change Bluetooth state"
      ("Bluetooth " ++ if on then "enabled" else "disabled")
  | .suspend => order backend s (.power .suspend) "Failed to suspend" "Suspended"
  | .hibernate => order backend s (.power .hibernate) "Failed to hibernate" "Hibernating"
  | .schedule action => putOff delay spare s action
  | .launch app => order backend s (.launch app) ("Failed to launch " ++ app) ("Launched " ++ app)
  | .info topic => inform backend s topic

end Action

/-- Checks an intent and carries it out; one that is refused does nothing. -/
def Intent.execute (backend : Backend σ) (delay : Nat) (spare : Bool) (s : σ) (intent : Intent) : Execution σ :=
  match Action.ofIntent intent with
  | .ok action => action.perform backend delay spare s
  | .error refusal => ⟨.failed refusal.message, s, none⟩

end DeviceAgent
