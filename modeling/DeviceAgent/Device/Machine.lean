import DeviceAgent.Device.Linux
import DeviceAgent.Device.Virtual

/-!
# Machines of either kind
-/

namespace DeviceAgent

inductive Machine where
  | linux (m : LinuxMachine)
  | virtual (m : VirtualMachine)

namespace Machine

def perform (c : Command) : Machine → Except DeviceError c.Reply × Machine
  | .linux m =>
    let (reply, next) := LinuxMachine.perform c m
    (reply, .linux next)
  | .virtual m =>
    let (reply, next) := VirtualMachine.perform c m
    (reply, .virtual next)

def backend : Backend Machine := ⟨perform⟩

end Machine

end DeviceAgent
