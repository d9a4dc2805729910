import DeviceAgent.Device.Basic
import DeviceAgent.Device.Files
import DeviceAgent.Text.Decimal

/-!
# The Linux machine

Backlight and power supplies are read from and written to class files; sound, radios and power go through
programs that are started with arguments and answer on their output.
-/

namespace DeviceAgent

/-- What a program prints and the status it exits with, which has eight bits. -/
structure ProgramRun where
  output : List UInt8
  status : UInt8
deriving DecidableEq, Repr

/-- An installed program: how it runs, and how it runs with particular arguments, which are written with one
blank between them. -/
structure Program where
  name : String
  usual : ProgramRun
  special : List (String × ProgramRun)
deriving DecidableEq, Repr

/-- The run of a program with these arguments. -/
def Program.run (p : Program) (args : List String) : ProgramRun :=
  (p.special.lookup (" ".intercalate args)).getD p.usual

/-- A machine with class files, installed programs and application entries. -/
structure LinuxMachine where
  files : FileTree
  entries : List String
  programs : List Program
  info : SystemInfo
  started : List (List String)
deriving DecidableEq, Repr

namespace LinuxMachine

def backlightClass : FilePath := ["sys", "class", "backlight"]

def powerSupplyClass : FilePath := ["sys", "class", "power_supply"]

def pathText (path : FilePath) : String := String.intercalate "/" path

def readText? (m : LinuxMachine) (path : FilePath) : Option String :=
  (m.files.read path).toOption.map Text.trimmed

def readInt (m : LinuxMachine) (path : FilePath) : Except DeviceError Int :=
  match m.files.read path with
  | .error e => .error (.io e.message)
  | .ok s =>
    match Text.int64? (Text.trim s.toList) with
    | some n => .ok n
    | none => .error (.badOutput (pathText path ++ ": '" ++ Text.trimmed s ++ "'"))

def backlight (m : LinuxMachine) : Except DeviceError FilePath :=
  match m.files.list backlightClass with
  | name :: _ => .ok (backlightClass ++ [name])
  | [] => .error (.unavailable "no backlight device")

/-- The raw value of full brightness, which has to be positive. -/
def fullBrightness (m : LinuxMachine) (device : FilePath) : Except DeviceError Int := do
  let full ← m.readInt (device ++ ["max_brightness"])
  if full ≤ 0 then throw (.badOutput "max_brightness is zero") else return full

def brightness (m : LinuxMachine) : Except DeviceError Nat := do
  let device ← m.backlight
  let current ← m.readInt (device ++ ["brightness"])
  let full ← m.fullBrightness device
  return clampLevel ((current * 100).tdiv full)

/-- The raw value of a level on a device with this full brightness. -/
def rawBrightness (full : Int) (level : Nat) : Int :=
  (full * clampLevel level).tdiv 100

def setBrightness (m : LinuxMachine) (level : Nat) : Except DeviceError LinuxMachine := do
  let device ← m.backlight
  let full ← m.fullBrightness device
  match m.files.write (device ++ ["brightness"]) (Text.octets (toString (rawBrightness full level))) with
  | .ok files => return { m with files := files }
  | .error e => throw (.io e.message)

/-- The first power supply that is a battery by its name or its type. -/
def batteryDevice? (m : LinuxMachine) : Option FilePath :=
  ((m.files.list powerSupplyClass).find? fun name =>
    "BAT".toList.isPrefixOf name.toList || m.readText? (powerSupplyClass ++ [name, "type"]) == some "Battery").map
    fun name => powerSupplyClass ++ [name]

/-- The minutes that an energy lasts at a power, in a 32-bit word. -/
def minutes (energy power : Int) : Nat :=
  (((energy * 60).tdiv power) % 4294967296).toNat

def battery (m : LinuxMachine) : Battery :=
  match m.batteryDevice? with
  | none => .missing
  | some device =>
    let number := fun (name : String) => (m.readInt (device ++ [name])).toOption
    if ((number "present").map (· == 1)).getD true then
      let level := ((number "capacity").map clampLevel).getD 0
      let status := (m.readText? (device ++ ["status"])).getD "Unknown"
      let times := match (number "power_now").filter (0 < ·), number "energy_now" with
        | some power, some now =>
          if status = "Discharging" then (some (minutes now power), none)
          else if status = "Charging" then
            (none, some (minutes (max (((number "energy_full").getD now) - now) 0) power))
          else (none, none)
        | _, _ => (none, none)
      ⟨true, level, status, times.1, times.2⟩
    else .missing

def onAcPower (m : LinuxMachine) : Except DeviceError Bool :=
  if m.files.exist powerSupplyClass then
    .ok ((m.files.list powerSupplyClass).any fun name =>
      m.readText? (powerSupplyClass ++ [name, "type"]) == some "Mains" &&
        ((m.readInt (powerSupplyClass ++ [name, "online"])).toOption == some 1))
  else .error (.unavailable "no power_supply class")

/-- Why a program does not start, if it does not: an argument with a NUL cannot be passed on, and the program
has to be there. -/
def startError? (m : LinuxMachine) (program : String) (args : List String) : Option String :=
  if (program :: args).any fun a => a.toList.contains '\x00' then some "nul byte found in provided data"
  else if m.programs.any (·.name == program) then none
  else some FileError.notFound.message

/-- Starts a program and waits for its output. -/
def capture (m : LinuxMachine) (program : String) (args : List String) :
    Except DeviceError String × LinuxMachine :=
  match m.startError? program args, m.programs.find? (·.name == program) with
  | none, some p =>
    let run := p.run args
    let next := { m with started := m.started ++ [program :: args] }
    if run.status = 0 then (.ok (Text.lossy run.output), next)
    else (.error (.commandFailed (program ++ " exited with exit status: " ++ toString run.status)), next)
  | some e, _ => (.error (.commandFailed (program ++ ": " ++ e)), m)
  | none, none => (.error (.commandFailed (program ++ ": " ++ FileError.notFound.message)), m)

/-- Starts a program and waits for its end. -/
def call (m : LinuxMachine) (program : String) (args : List String) :
    Except DeviceError Unit × LinuxMachine :=
  let (result, next) := m.capture program args
  (result.map fun _ => (), next)

/-- Starts a program in the background; whether it did start. -/
def spawn (m : LinuxMachine) (program : String) : Bool × LinuxMachine :=
  match m.startError? program [] with
  | none => (true, { m with started := m.started ++ [[program]] })
  | some _ => (false, m)

/-- The level in the output of the mixer: the first stretch behind an opening bracket, up to a closing one,
that is a number with a percent sign. -/
def mixerLevel? (output : String) : Option Nat :=
  ((output.toList.splitOnP (· == '[')).drop 1).findSome? fun chunk =>
    (Text.dropEnding? ['%'] (chunk.takeWhile (· != ']'))).bind fun digits =>
      (Text.int64? digits).map clampLevel

/-- Whether the output of the mixer shows a muted channel. -/
def mixerMuted (output : String) : Bool :=
  Text.contains output "[off]"

/-- Whether the output of the Bluetooth control has a line that says the adapter is powered. -/
def adapterPowered (output : String) : Bool :=
  (Text.lines output.toList).any fun line => Text.trim line == "Powered: yes".toList

def listApps (m : LinuxMachine) : List String :=
  ((m.entries.filter fun n => n.toList.head? != some '.').mergeSort.filterMap fun n =>
    (Text.dropEnding? ".desktop".toList n.toList).map String.ofList).eraseReps

/-- Starts an application: a program of that name, else the desktop entry of that name, else the first
desktop entry whose name holds it. Paths and programs that change the power state are refused. -/
def launch (m : LinuxMachine) (app : String) : Except DeviceError Unit × LinuxMachine :=
  let name := Text.trimmed app
  if name.isEmpty || name.toList.contains '/' then
    (.error (.unavailable ("invalid application name '" ++ name ++ "'")), m)
  else if isPowerCommand name then (.error (.unavailable (name ++ " is not an application")), m)
  else
    match m.spawn name with
    | (true, m) => (.ok (), m)
    | (false, m) =>
      match m.call "gtk-launch" [name] with
      | (.ok (), m) => (.ok (), m)
      | (.error _, m) =>
        match m.listApps.find? fun entry => Text.occursIn (Text.lower name.toList) (Text.lower entry.toList) with
        | some entry => m.call "gtk-launch" [entry]
        | none => (.error (.unavailable ("no application named " ++ name)), m)

def powerVerb : PowerEvent → String
  | .suspend => "suspend"
  | .hibernate => "hibernate"
  | .poweroff => "poweroff"
  | .reboot => "reboot"

def onOff (on : Bool) : String := if on then "on" else "off"

def perform (c : Command) (m : LinuxMachine) : Except DeviceError c.Reply × LinuxMachine :=
  match c with
  | .brightness => (m.brightness, m)
  | .setBrightness level =>
    match m.setBrightness level with
    | .ok next => (.ok (), next)
    | .error e => (.error e, m)
  | .volume =>
    let (output, next) := m.capture "amixer" ["get", "Master"]
    (output.bind fun text => match mixerLevel? text with
      | some level => .ok level
      | none => .error (.badOutput "no volume percentage in amixer output"), next)
  | .setVolume level => m.call "amixer" ["set", "Master", toString (clampLevel level) ++ "%"]
  | .muted =>
    let (output, next) := m.capture "amixer" ["get", "Master"]
    (output.map mixerMuted, next)
  | .setMuted on => m.call "amixer" ["set", "Master", if on then "mute" else "unmute"]
  | .wifi =>
    let (output, next) := m.capture "nmcli" ["radio", "wifi"]
    (output.map fun text => Text.trim text.toList == "enabled".toList, next)
  | .setWifi on => m.call "nmcli" ["radio", "wifi", onOff on]
  | .bluetooth =>
    let (output, next) := m.capture "bluetoothctl" ["show"]
    (output.map adapterPowered, next)
  | .setBluetooth on => m.call "bluetoothctl" ["power", onOff on]
  | .battery => (.ok m.battery, m)
  | .onAcPower => (m.onAcPower, m)
  | .power event => m.call "systemctl" [powerVerb event]
  | .systemInfo => (.ok m.info, m)
  | .launch app => m.launch app
  | .listApps => (.ok m.listApps, m)

def backend : Backend LinuxMachine := ⟨perform⟩

end LinuxMachine

end DeviceAgent
