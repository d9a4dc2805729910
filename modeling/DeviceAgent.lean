import DeviceAgent.Client.Basic
import DeviceAgent.Frame.Pieces
import DeviceAgent.Main
import DeviceAgent.Proofs.BatteryTimes
import DeviceAgent.Proofs.BrightnessCalls
import DeviceAgent.Proofs.BrightnessReadBack
import DeviceAgent.Proofs.BrightnessSteps
import DeviceAgent.Proofs.CheckedIntents
import DeviceAgent.Proofs.ConfiguredProvider
import DeviceAgent.Proofs.Confirmation
import DeviceAgent.Proofs.ConnectionFold
import DeviceAgent.Proofs.CrossedLevels
import DeviceAgent.Proofs.ErrorFrames
import DeviceAgent.Proofs.FrameStream
import DeviceAgent.Proofs.IntentShapes
import DeviceAgent.Proofs.Launching
import DeviceAgent.Proofs.LevelCommands
import DeviceAgent.Proofs.LevelSpellings
import DeviceAgent.Proofs.Levels
import DeviceAgent.Proofs.LogContents
import DeviceAgent.Proofs.Pairing
import DeviceAgent.Proofs.PowerGate
import DeviceAgent.Proofs.ProviderAnswers
import DeviceAgent.Proofs.ProviderFailures
import DeviceAgent.Proofs.ProviderMessages
import DeviceAgent.Proofs.SharedHistory
import DeviceAgent.Proofs.Shutdown
import DeviceAgent.Proofs.SpanLayout
import DeviceAgent.Proofs.TruthfulResults
import DeviceAgent.Proofs.Vocabulary
import DeviceAgent.Proofs.WireRoundTrip
