import DeviceAgent.Provider.Basic
import DeviceAgent.Settings.File
import DeviceAgent.Text.Octets
import DeviceAgent.Toml.Reader

/-!
# Settings

The settings an agent runs with: a file, checked for its limits, with keys and overrides from the environment.
A provider without a key gives way to the keyword interpreter.
-/

namespace DeviceAgent

inductive FileContents where
  | missing
  | directory
  | octets (bs : List UInt8)
deriving DecidableEq, Repr

inductive SettingFault where
  | historyCapacity (value : Nat)
  | maxMessageSize (value : Nat)
  | requestTimeout
  | unknownDevices (name : String)
deriving DecidableEq, Repr

def SettingFault.message : SettingFault → String
  | .historyCapacity value => "history_capacity must be at least 2 (got " ++ toString value ++ ")"
  | .maxMessageSize value =>
    "max_message_size must be between 1 KiB and 16 MiB (got " ++ toString value ++ ")"
  | .requestTimeout => "request_timeout_secs must be positive"
  | .unknownDevices name => DeviceKind.unknownMessage name

inductive SettingsError where
  | unreadable
  | unparsable
  | invalid (fault : SettingFault)
deriving DecidableEq, Repr

/-- The text of an error, up to the path where it names one. -/
def SettingsError.message : SettingsError → String
  | .unreadable => "Failed to read"
  | .unparsable => "Failed to parse"
  | .invalid fault => "Invalid configuration: " ++ fault.message

namespace SettingsFile

/-- Reads a settings file; a missing one says nothing. -/
def read : FileContents → Except SettingsError SettingsFile
  | .missing => .ok standard
  | .directory => .error .unreadable
  | .octets bs =>
    match Text.ofOctets? bs with
    | none => .error .unreadable
    | some text =>
      match (Toml.read? text).bind (ofTree? Toml.tableNotation) with
      | some file => .ok file
      | none => .error .unparsable

def messageSizes : Nat × Nat := (1024, 16 * 1024 * 1024)

/-- The first setting that is out of its limits. -/
def fault? (f : SettingsFile) : Option SettingFault :=
  if f.historyCapacity < 2 then some (.historyCapacity f.historyCapacity)
  else if f.maxMessageSize < messageSizes.1 || messageSizes.2 < f.maxMessageSize then
    some (.maxMessageSize f.maxMessageSize)
  else if f.requestTimeoutSecs = 0 then some .requestTimeout
  else none

end SettingsFile

abbrev Environment := List (String × String)

/-- The value of a variable without outer blanks, if anything is left of it. -/
def Environment.value? (env : Environment) (name : String) : Option String :=
  (env.lookup name).bind fun v =>
    let v := Text.trimmed v
    if v.isEmpty then none else some v

def settingsVariable : String := "AIOS_AGENT_CONFIG"

def socketVariable : String := "AIOS_SOCKET"

def devicesVariable : String := "AIOS_HAL"

structure Settings where
  provider : ProviderKind
  model : String
  credentials : List (ProviderKind × String)
  confirmDangerous : Bool
  socketPath : String
  historyCapacity : Nat
  maxMessageSize : Nat
  requestTimeoutSecs : Nat
  maxTokens : Nat
  powerDelaySecs : Nat
  devices : DeviceKind
  logLevel : String
  logFile : Option String
  endpoints : Endpoints
  /-- Why a provider that was asked for is not used. -/
  notice : Option String
deriving DecidableEq, Repr

namespace Settings

def credentialsIn (env : Environment) : List (ProviderKind × String) :=
  [ProviderKind.openai, .anthropic].filterMap fun kind =>
    (kind.keyVariable?.bind env.value?).map fun key => (kind, key)

/-- The provider to use, and why one that was asked for is not used. Without a wish the first with a key is
taken. -/
def selectProvider (wish : Option ProviderKind) (credentials : List (ProviderKind × String)) :
    ProviderKind × Option String :=
  match wish with
  | some .none => (.none, none)
  | some kind =>
    if (credentials.lookup kind).isSome then (kind, none)
    else (.none, some ("Provider " ++ kind.name ++ " selected but " ++
      (kind.keyVariable?.getD "its API key") ++ " is not set; using local fallback"))
  | none =>
    if (credentials.lookup .openai).isSome then (.openai, none)
    else if (credentials.lookup .anthropic).isSome then (.anthropic, none)
    else (.none, none)

/-- The kind of devices: that of the environment, or that of the file. -/
def devicesIn (env : Environment) (file : SettingsFile) : Except SettingsError DeviceKind :=
  match env.value? devicesVariable with
  | some text => match DeviceKind.ofText text with
    | .ok kind => .ok kind
    | .error name => .error (.invalid (.unknownDevices name))
  | none => .ok file.devices

def resolve (file : SettingsFile) (env : Environment) : Except SettingsError Settings :=
  let credentials := credentialsIn env
  let (provider, notice) := selectProvider file.provider credentials
  (devicesIn env file).map fun devices =>
    { provider, credentials, devices, notice
      model := (file.model.filter fun m => ! Text.isAllBlank m).getD provider.defaultModel
      confirmDangerous := file.confirmDangerous
      socketPath := (env.value? socketVariable).getD file.socketPath
      historyCapacity := file.historyCapacity
      maxMessageSize := file.maxMessageSize
      requestTimeoutSecs := file.requestTimeoutSecs
      maxTokens := file.maxTokens
      powerDelaySecs := file.powerDelaySecs
      logLevel := file.logLevel
      logFile := file.logFile
      endpoints := file.endpoints }

/-- Loads settings from what is at the place of the file and from the environment. -/
def load (contents : FileContents) (env : Environment) : Except SettingsError Settings := do
  let file ← SettingsFile.read contents
  match file.fault? with
  | some fault => throw (.invalid fault)
  | none => resolve file env

def path (env : Environment) : String :=
  match env.lookup settingsVariable with
  | some p => if p.isEmpty then defaultSettingsPath else p
  | none => defaultSettingsPath

def aiConfigured (s : Settings) : Bool := s.provider != .none

def endpoint (s : Settings) : String :=
  match s.provider with
  | .anthropic => s.endpoints.anthropic
  | _ => s.endpoints.openai

def httpProvider (s : Settings) : Except ProviderFailure HttpProvider :=
  if s.provider = .none then .error .notConfigured
  else match s.credentials.lookup s.provider with
    | none => .error (.missingCredentials s.provider)
    | some key => HttpProvider.make s.provider s.endpoint key s.model s.maxTokens s.requestTimeoutSecs

end Settings

end DeviceAgent
