import DeviceAgent.Device.Basic
import DeviceAgent.Json.Record

/-!
# Reports on the wire

The JSON form of battery and system reports, and the coarser system snapshot that a status carries.
-/

namespace DeviceAgent

def maxWord32 : Nat := 4294967295

def maxWord64 : Nat := 18446744073709551615

def Json.ofOption (f : α → Json) : Option α → Json
  | some a => f a
  | none => .null

namespace Battery

def toJson (b : Battery) : Json :=
  .object [("present", .bool b.present), ("level", .ofNat b.level), ("status", .string b.status),
    ("time_to_empty", .ofOption .ofNat b.timeToEmpty), ("time_to_full", .ofOption .ofNat b.timeToFull)]

def ofTree? (t : Tree) : Option Battery :=
  match t.slots? Tree.jsonNotation
      [["present"], ["level"], ["status"], ["time_to_empty"], ["time_to_full"]] with
  | some [present, level, status, toEmpty, toFull] => do
    let present ← present.required Tree.bool?
    let level ← level.required (Tree.natUpTo? 255)
    let status ← status.required Tree.string?
    let toEmpty ← toEmpty.nullable (Tree.natUpTo? maxWord32)
    let toFull ← toFull.nullable (Tree.natUpTo? maxWord32)
    return ⟨present, level, status, toEmpty, toFull⟩
  | _ => none

end Battery

namespace SystemInfo

def toJson (i : SystemInfo) : Json :=
  .object [("hostname", .string i.hostname), ("kernel", .string i.kernel),
    ("cpu_load", .number (.float i.cpuLoad)), ("memory_total_kb", .ofNat i.memoryTotalKb),
    ("memory_free_kb", .ofNat i.memoryFreeKb), ("disk_total_kb", .ofNat i.diskTotalKb),
    ("disk_free_kb", .ofNat i.diskFreeKb), ("uptime_seconds", .ofNat i.uptimeSeconds)]

def ofTree? (t : Tree) : Option SystemInfo :=
  match t.slots? Tree.jsonNotation
      [["hostname"], ["kernel"], ["cpu_load"], ["memory_total_kb"], ["memory_free_kb"], ["disk_total_kb"],
        ["disk_free_kb"], ["uptime_seconds"]] with
  | some [hostname, kernel, load, memoryTotal, memoryFree, diskTotal, diskFree, uptime] => do
    let hostname ← hostname.required Tree.string?
    let kernel ← kernel.required Tree.string?
    let load ← load.required Tree.float?
    let memoryTotal ← memoryTotal.required (Tree.natUpTo? maxWord64)
    let memoryFree ← memoryFree.required (Tree.natUpTo? maxWord64)
    let diskTotal ← diskTotal.required (Tree.natUpTo? maxWord64)
    let diskFree ← diskFree.required (Tree.natUpTo? maxWord64)
    let uptime ← uptime.required (Tree.natUpTo? maxWord64)
    return ⟨hostname, kernel, load, memoryTotal, memoryFree, diskTotal, diskFree, uptime⟩
  | _ => none

end SystemInfo

/-- The system report in whole mebibytes and hours. -/
structure Snapshot where
  hostname : String
  kernel : String
  memoryMb : Nat
  memoryFreeMb : Nat
  uptimeHours : Nat
deriving DecidableEq, Repr

namespace Snapshot

def ofInfo (i : SystemInfo) : Snapshot where
  hostname := i.hostname
  kernel := i.kernel
  memoryMb := i.memoryTotalKb / 1024
  memoryFreeMb := i.memoryFreeKb / 1024
  uptimeHours := i.uptimeSeconds / 3600

def members (s : Snapshot) : List (String × Json) :=
  [("hostname", .string s.hostname), ("kernel", .string s.kernel), ("memory_mb", .ofNat s.memoryMb),
    ("memory_free_mb", .ofNat s.memoryFreeMb), ("uptime_hours", .ofNat s.uptimeHours)]

def toJson (s : Snapshot) : Json := .object s.members

def ofTree? (t : Tree) : Option Snapshot :=
  match t.slots? Tree.jsonNotation
      [["hostname"], ["kernel"], ["memory_mb"], ["memory_free_mb"], ["uptime_hours"]] with
  | some [hostname, kernel, memory, memoryFree, uptime] => do
    let hostname ← hostname.required Tree.string?
    let kernel ← kernel.required Tree.string?
    let memory ← memory.required (Tree.natUpTo? maxWord64)
    let memoryFree ← memoryFree.required (Tree.natUpTo? maxWord64)
    let uptime ← uptime.required (Tree.natUpTo? maxWord64)
    return ⟨hostname, kernel, memory, memoryFree, uptime⟩
  | _ => none

end Snapshot

end DeviceAgent
