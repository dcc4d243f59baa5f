import EnergyMeter.Amount
import EnergyMeter.Text.Blank
import EnergyMeter.Text.Numeral
import EnergyMeter.Text.Quoted
import EnergyMeter.Files.Edit
import EnergyMeter.Gauge
import EnergyMeter.Log.Event
import EnergyMeter.Breakdown
import EnergyMeter.MeterKind
import EnergyMeter.Hwmon.PlugMeter
import EnergyMeter.Machine
import EnergyMeter.Program.Consumption
import EnergyMeter.Program.Components
import EnergyMeter.Json.Decode
import EnergyMeter.Json.Reader
import EnergyMeter.Json.Printer
import EnergyMeter.Main
import EnergyMeter.Proofs.GaugeAccounting
import EnergyMeter.Proofs.GaugeInterleaving
import EnergyMeter.Proofs.StepCalculation
import EnergyMeter.Proofs.FreshStart
import EnergyMeter.Proofs.ByteOrder
import EnergyMeter.Proofs.PackageDetection
import EnergyMeter.Proofs.InnerZones
import EnergyMeter.Proofs.ProgramRuns
import EnergyMeter.Proofs.ConsumptionReport
import EnergyMeter.Proofs.RepeatedReads
import EnergyMeter.Proofs.ComponentsReport
import EnergyMeter.Proofs.SeparateReads
import EnergyMeter.Proofs.CallFrames
import EnergyMeter.Proofs.InputDetection
import EnergyMeter.Proofs.MeterChoice
import EnergyMeter.Proofs.CallReach
import EnergyMeter.Proofs.PartialReset
import EnergyMeter.Proofs.ReadOrder
import EnergyMeter.Proofs.SkippedReads
import EnergyMeter.Proofs.UnknownRange
import EnergyMeter.Proofs.MeasurementWindows
import EnergyMeter.Proofs.SettingsFile
import EnergyMeter.Proofs.ZoneLayouts
import EnergyMeter.Proofs.Numerals
import EnergyMeter.Proofs.ZoneNames
import EnergyMeter.Proofs.SensorTexts
import EnergyMeter.Proofs.DocumentKeys
import EnergyMeter.Proofs.SettingsDecoding
import EnergyMeter.Proofs.ZoneCandidates
import EnergyMeter.Proofs.HiddenZones
import EnergyMeter.Proofs.PackageEvents
import EnergyMeter.Proofs.DetectionEvents
