import DeviceAgent.Daemon.Basic
import DeviceAgent.Device.Machine
import DeviceAgent.Settings.Basic

/-!
# Startup

From settings to a listening daemon: the agent that settings describe, the log file, and the socket, which
takes the place of one that was left behind. Each step can fail, and the first failure decides the exit status.
-/

namespace DeviceAgent

namespace DeviceKind

/-- A Linux machine on which nothing is installed. -/
def bareLinux : LinuxMachine := ⟨⟨[], []⟩, [], [], VirtualMachine.info, []⟩

def machine : DeviceKind → Machine
  | .linux => .linux bareLinux
  | .virtual => .virtual .initial

end DeviceKind

namespace Settings

def policy (s : Settings) : Policy where
  confirmDangerous := s.confirmDangerous
  messageLimit := s.maxMessageSize
  replyLimit := s.requestTimeoutSecs * 1000
  powerDelay := s.powerDelaySecs
  model := s.model

/-- The provider over HTTP that settings come to, if they name one and it can be made. -/
def remote? (s : Settings) : Option HttpProvider :=
  if s.aiConfigured then s.httpProvider.toOption else none

def agent (s : Settings) : Agent Machine Network where
  backend := Machine.backend
  provider := s.remote?.map HttpProvider.provider
  policy := s.policy

def initialState (s : Settings) (network : Network) (clock : Clock) : Agent.State Machine Network where
  conversation := .empty s.historyCapacity
  devices := s.devices.machine
  provider := network
  scheduled := []
  clock := clock
  spare := true

end Settings

inductive BindFailure where
  | directory
  | stale
  | address
deriving DecidableEq, Repr

/-- The text of a failure, up to the path that it names. -/
def BindFailure.message : BindFailure → String
  | .directory => "Failed to create socket directory"
  | .stale => "Failed to remove stale socket"
  | .address => "Failed to bind socket at"

/-- The permissions of a socket: every local user may connect. -/
def socketMode : String := "666"

/-- The longest path that an address can hold, in octets. -/
def longestAddress : Nat := 107

/-- Puts a socket at a path, in directories that are made for it and in place of a file that is there. -/
def bindSocket (path : String) (files : FileTree) : Except BindFailure Unit × FileTree :=
  match files.makeParents (.ofText path) with
  | (.error _, files) => (.error .directory, files)
  | (.ok _, files) =>
    match files.locate (.ofText path) with
    | .error _ => (.error .address, files)
    | .ok place =>
      if files.isDirectory place then (.error .stale, files)
      else
        let files := (files.remove place).toOption.getD files
        if longestAddress < (Text.octets path).length then (.error .address, files)
        else match files.write place [] with
          | .ok files => (.ok (), files)
          | .error _ => (.error .address, files)

def releaseSocket (path : String) (files : FileTree) : FileTree :=
  (((files.locate (.ofText path)).bind files.remove).toOption).getD files

/-- Opens a log file for writing at its end, in directories that are made for it. -/
def openLog (path : String) (files : FileTree) : Except FileError Unit × FileTree :=
  match files.makeParents (.ofText path) with
  | (.error e, files) => (.error e, files)
  | (.ok _, files) =>
    match (files.locate (.ofText path)).bind fun place => files.write place ((files.octets? place).getD []) with
    | .ok files => (.ok (), files)
    | .error e => (.error e, files)

inductive StartFailure where
  | settings (error : SettingsError)
  | log (error : FileError)
  | socket (failure : BindFailure)
deriving DecidableEq, Repr

namespace StartFailure

def exitStatus : StartFailure → Nat
  | .settings _ => 78
  | .log _ | .socket _ => 1

/-- The line on standard error before logging is up. -/
def fatalLine? : StartFailure → Option String
  | .settings error => some ("[FATAL] " ++ error.message)
  | .log _ | .socket _ => none

end StartFailure

def FileContents.at (path : String) (files : FileTree) : FileContents :=
  match files.locate (.ofText path) with
  | .error _ => .missing
  | .ok place =>
    match files.octets? place with
    | some bs => .octets bs
    | none => if files.isDirectory place then .directory else .missing

/-- Starts from the files that are there and the environment: the settings, if all went well, and the files
then. -/
def startUp (env : Environment) (files : FileTree) : Except StartFailure Settings × FileTree :=
  match Settings.load (.at (Settings.path env) files) env with
  | .error e => (.error (.settings e), files)
  | .ok settings =>
    match (match settings.logFile with
      | some path => openLog path files
      | none => (.ok (), files)) with
    | (.error e, files) => (.error (.log e), files)
    | (.ok _, files) =>
      match bindSocket settings.socketPath files with
      | (.error f, files) => (.error (.socket f), files)
      | (.ok _, files) => (.ok settings, files)

end DeviceAgent
