import DeviceAgent.Daemon.Startup
import Std.Time.Zoned

/-!
# The program

Loads the settings that the environment points to and serves the client on standard input and output, frame by
frame, until it is done or breaks the protocol. Settings that cannot be loaded end the program with a line on
standard error.
-/

namespace DeviceAgent.Standalone

def variableNames : List String :=
  [settingsVariable, socketVariable, devicesVariable] ++ [ProviderKind.openai, .anthropic].filterMap (·.keyVariable?)

def environment : IO Environment :=
  variableNames.filterMapM fun name => do return (← IO.getEnv name).map fun value => (name, value)

def contentsAt (path : String) : IO FileContents := do
  try
    return .octets (← IO.FS.readBinFile path).toList
  catch
    | .noFileOrDirectory .. => return .missing
    | _ => return .directory

/-- What the clock shows, `start` being the reading in milliseconds at which the agent started. -/
def clockNow (start : Nat) : IO Clock := do
  let now ← Std.Time.PlainDateTime.now
  let ms ← IO.monoMsNow
  return {
    hour := now.hour.val.toNat
    minute := now.minute.val.toNat
    second := now.second.val.toNat
    weekday := ⟨(now.weekday.toOrdinal.val.toNat - 1) % 7, Nat.mod_lt _ (by decide)⟩
    month := ⟨(now.month.val.toNat - 1) % 12, Nat.mod_lt _ (by decide)⟩
    day := now.day.val.toNat
    year := now.year.toInt.toNat
    uptimeSecs := (ms - start) / 1000 }

/-- Sleeps until no request has to wait. -/
partial def sleep (agent : Agent Machine Network) (d : Daemon Machine Network) : IO (Daemon Machine Network) := do
  match d.due? with
  | none => return d
  | some ms =>
    IO.sleep ms.toUInt32
    sleep agent ((d.elapse ms).rest agent)

/-- Serves the only connection until it is closed. -/
partial def serve (agent : Agent Machine Network) (start : Nat) (input output : IO.FS.Stream)
    (d : Daemon Machine Network) : IO Unit := do
  let octets ← input.read 65536
  let clock ← clockNow start
  let d := { d with state := { d.state with clock := clock } }
  let d ← sleep agent ((d.step agent (if octets.isEmpty then .finish 0 else .receive 0 octets.toList)).rest agent)
  match d.connections[0]? with
  | none => return
  | some c =>
    output.write ⟨c.outgoing.toArray⟩
    output.flush
    if c.isClosed then return else serve agent start input output (d.step agent (.fetch 0))

def run : IO UInt32 := do
  let env ← environment
  match Settings.load (← contentsAt (Settings.path env)) env with
  | .error e =>
    let failure := StartFailure.settings e
    (← IO.getStderr).putStrLn (failure.fatalLine?.getD "")
    return failure.exitStatus.toUInt32
  | .ok settings =>
    let start ← IO.monoMsNow
    let state := settings.initialState (.down 0) (← clockNow start)
    let d := (Daemon.started state).run settings.agent [.accept]
    serve settings.agent start (← IO.getStdin) (← IO.getStdout) d
    return 0

end DeviceAgent.Standalone

def main : IO UInt32 := DeviceAgent.Standalone.run
