import DeviceAgent.Device.Basic
import DeviceAgent.Text.Word

/-!
# The virtual machine

Devices kept in memory. Every command is counted, also one that fails, and a switch makes all commands fail
without any effect.
-/

namespace DeviceAgent

structure DeviceSettings where
  brightness : Nat
  volume : Nat
  muted : Bool
  wifi : Bool
  bluetooth : Bool
deriving DecidableEq, Repr

structure VirtualMachine where
  settings : DeviceSettings
  battery : Battery
  onAc : Bool
  apps : List String
  launched : List String
  events : List PowerEvent
  calls : Nat
  failing : Bool
deriving DecidableEq, Repr

namespace VirtualMachine

/-- The machine at first, with the levels cut to 100. -/
def withLevels (brightness volume : Nat) : VirtualMachine where
  settings := ⟨min brightness 100, min volume 100, false, true, false⟩
  battery := ⟨true, 76, "Discharging", some 190, none⟩
  onAc := false
  apps := ["firefox", "org.gnome.Terminal", "code"]
  launched := []
  events := []
  calls := 0
  failing := false

def initial : VirtualMachine := withLevels 50 50

def info : SystemInfo where
  hostname := "aios-virtual"
  kernel := "Linux virtual"
  cpuLoad := (Binary64.ofRatio false 15 100).getD (Binary64.zero false)
  memoryTotalKb := 8 * 1024 * 1024
  memoryFreeKb := 5 * 1024 * 1024
  diskTotalKb := 256 * 1024 * 1024
  diskFreeKb := 128 * 1024 * 1024
  uptimeSeconds := 7 * 3600

def offline : DeviceError := .unavailable "virtual device offline"

/-- The first installed application whose name holds the given one, letter case and outer blanks aside. -/
def findApp? (apps : List String) (name : String) : Option String :=
  let needle := Text.lower (Text.trim name.toList)
  if needle.isEmpty then none else apps.find? fun app => Text.occursIn needle (Text.lower app.toList)

/-- What a command does on a machine that is not failing. -/
def apply (m : VirtualMachine) : (c : Command) → Except DeviceError c.Reply × VirtualMachine
  | .brightness => (.ok m.settings.brightness, m)
  | .setBrightness level => (.ok (), { m with settings.brightness := clampLevel level })
  | .volume => (.ok m.settings.volume, m)
  | .setVolume level => (.ok (), { m with settings.volume := clampLevel level })
  | .muted => (.ok m.settings.muted, m)
  | .setMuted on => (.ok (), { m with settings.muted := on })
  | .wifi => (.ok m.settings.wifi, m)
  | .setWifi on => (.ok (), { m with settings.wifi := on })
  | .bluetooth => (.ok m.settings.bluetooth, m)
  | .setBluetooth on => (.ok (), { m with settings.bluetooth := on })
  | .battery => (.ok m.battery, m)
  | .onAcPower => (.ok m.onAc, m)
  | .power event => (.ok (), { m with events := m.events ++ [event] })
  | .systemInfo => (.ok info, m)
  | .launch name =>
    match findApp? m.apps name with
    | some app => (.ok (), { m with launched := m.launched ++ [app] })
    | none => (.error (.unavailable ("no application named " ++ name)), m)
  | .listApps => (.ok m.apps, m)

/-- Counts a command and carries it out. -/
def perform (c : Command) (m : VirtualMachine) : Except DeviceError c.Reply × VirtualMachine :=
  let counted := { m with calls := m.calls + 1 }
  if m.failing then (.error offline, counted) else counted.apply c

def backend : Backend VirtualMachine := ⟨perform⟩

end VirtualMachine

end DeviceAgent
