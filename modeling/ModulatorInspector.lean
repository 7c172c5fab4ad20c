import ModulatorInspector.Main
import ModulatorInspector.Proofs.Device.Handles
import ModulatorInspector.Proofs.Device.Identifiers
import ModulatorInspector.Proofs.Invocation.Bandwidth
import ModulatorInspector.Proofs.Invocation.Carrier
import ModulatorInspector.Proofs.Invocation.ConfigurationDirectory
import ModulatorInspector.Proofs.Invocation.Diagnostics
import ModulatorInspector.Proofs.Query.Indifference
import ModulatorInspector.Proofs.Query.Labels
import ModulatorInspector.Proofs.Query.Measurement
import ModulatorInspector.Proofs.Query.Repetition
import ModulatorInspector.Proofs.Settings.Presence
import ModulatorInspector.Query.Throttled
