import DeviceAgent.Decimal.Binary64
import DeviceAgent.Text.Blank
import DeviceAgent.Text.Case

/-!
# Devices

The commands that a machine's devices understand, what each answers with and how one fails. A backend carries
out commands on a state of its own; a command succeeds or fails as a whole.
-/

namespace DeviceAgent

/-- What the battery reports. Times are in minutes, known only while it is discharging or charging. -/
structure Battery where
  present : Bool
  level : Nat
  status : String
  timeToEmpty : Option Nat
  timeToFull : Option Nat
deriving DecidableEq, Repr

def Battery.missing : Battery := ⟨false, 0, "Unknown", none, none⟩

structure SystemInfo where
  hostname : String
  kernel : String
  cpuLoad : Binary64
  memoryTotalKb : Nat
  memoryFreeKb : Nat
  diskTotalKb : Nat
  diskFreeKb : Nat
  uptimeSeconds : Nat
deriving DecidableEq, Repr

inductive DeviceError where
  | unavailable (what : String)
  | commandFailed (what : String)
  | badOutput (what : String)
  | io (what : String)
deriving DecidableEq, Repr

def DeviceError.message : DeviceError → String
  | .unavailable what => "device not available: " ++ what
  | .commandFailed what => "command failed: " ++ what
  | .badOutput what => "unexpected device output: " ++ what
  | .io what => "IO error: " ++ what

inductive PowerEvent where
  | suspend
  | hibernate
  | poweroff
  | reboot
deriving DecidableEq, Repr

inductive Command where
  | brightness
  | setBrightness (level : Nat)
  | volume
  | setVolume (level : Nat)
  | muted
  | setMuted (on : Bool)
  | wifi
  | setWifi (on : Bool)
  | bluetooth
  | setBluetooth (on : Bool)
  | battery
  | onAcPower
  | power (event : PowerEvent)
  | systemInfo
  | launch (app : String)
  | listApps
deriving DecidableEq, Repr

abbrev Command.Reply : Command → Type
  | .brightness | .volume => Nat
  | .muted | .wifi | .bluetooth | .onAcPower => Bool
  | .battery => Battery
  | .systemInfo => SystemInfo
  | .listApps => List String
  | _ => Unit

/-- A way to carry out commands on states of type `σ`. -/
structure Backend (σ : Type) where
  perform : (c : Command) → σ → Except DeviceError c.Reply × σ

/-- Keeps a log of the commands given to a backend, the latest first. -/
def Backend.logged (backend : Backend σ) : Backend (List Command × σ) where
  perform c s :=
    let (reply, next) := backend.perform c s.2
    (reply, c :: s.1, next)

def clampLevel (n : Int) : Nat :=
  (max 0 (min 100 n)).toNat

theorem clampLevel_le (n : Int) : clampLevel n ≤ 100 := by
  unfold clampLevel
  omega

theorem clampLevel_mono {m n : Int} (h : m ≤ n) : clampLevel m ≤ clampLevel n := by
  unfold clampLevel
  omega

theorem clampLevel_natCast (n : Nat) : clampLevel n = min n 100 := by
  unfold clampLevel
  omega

/-- Programs that change the power state. -/
def powerCommands : List String :=
  ["halt", "poweroff", "shutdown", "reboot", "systemctl", "loginctl", "init", "telinit"]

/-- Whether the first word of a name is, in lower case, one of those programs. -/
def isPowerCommand (name : String) : Bool :=
  powerCommands.contains (String.ofList (Text.firstWord (Text.lower (Text.trim name.toList))))

inductive DeviceKind where
  | linux
  | virtual
deriving DecidableEq, Repr

namespace DeviceKind

def name : DeviceKind → String
  | .linux => "linux"
  | .virtual => "virtual"

def choices : List (String × DeviceKind) := [("linux", .linux), ("virtual", .virtual)]

/-- Reads a kind from a free text, where two more names are understood; the failure is the text in lower
case. -/
def ofText (text : String) : Except String DeviceKind :=
  let name := String.ofList (Text.lower (Text.trim text.toList))
  if name = "linux" || name = "sysfs" then .ok .linux
  else if name = "virtual" || name = "memory" then .ok .virtual
  else .error name

def unknownMessage (name : String) : String := "unknown HAL backend '" ++ name ++ "'"

end DeviceKind

end DeviceAgent
